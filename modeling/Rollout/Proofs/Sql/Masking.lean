import Mathlib.Data.List.Infix
import Rollout.Proofs.Sql.Quote
import Rollout.Sql.Mask

/-!
# What masking leaves of a statement

A statement is masked from the left, so the front of a statement decides what is masked behind it.
If the front leaves no string open that it assigns to a password, the front and what follows are
masked each for itself (`maskChars_append`). If it does leave one open, that string ends at the
next quote, and what was quoted from there on is shown (`maskChars_append_of_leavesOpen`).
-/

namespace Rollout.Sql

open Rollout.Text (isBlank)

/-- A string that is assigned to a password at the front of a text: the assignment as written and
what follows the opening quote. -/
def opened? (cs : List Char) : Option (List Char × List Char) :=
  match assignment? cs with
  | none => none
  | some (head, r) => (stringOpened? r).map fun u => (head, u)

/-- A character that stands in no assignment to a password: at it, every opening has either been
read or failed. -/
structure Stops (c : Char) : Prop where
  letter : ∀ l ∈ ['p', 'a', 's', 's', 'w', 'o', 'r', 'd'], foldsTo l c = false
  blank : isBlank c = false
  equals : c ≠ '='
  quote : c ≠ '\''
  upper : c ≠ 'N'
  lower : c ≠ 'n'

variable {c : Char} {cs more : List Char}

/-- Whether a character is no letter of the word is found out letter by letter. -/
theorem not_foldsTo
    (h : (['p', 'a', 's', 's', 'w', 'o', 'r', 'd'].all fun l => !foldsTo l c) = true) :
    ∀ l ∈ ['p', 'a', 's', 's', 'w', 'o', 'r', 'd'], foldsTo l c = false := by
  simpa using h

/-- A secret is an opened string that is closed. -/
theorem secret?_eq (cs : List Char) :
    secret? cs =
      (opened? cs).bind fun p => (stringClosed? none p.2).map fun rest => (p.1, rest) := by
  unfold secret? opened?
  cases assignment? cs with
  | none => rfl
  | some p => cases h : stringOpened? p.2 <;> simp [h]

/-- What follows the quote of an opened string is shorter than the text. -/
theorem length_of_opened {head u : List Char} (h : opened? cs = some (head, u)) :
    u.length < cs.length := by
  unfold opened? at h
  split at h
  · cases h
  · rename_i a r ha
    obtain ⟨u', hu, he⟩ := Option.map_eq_some_iff.1 h
    cases he
    have h1 := length_of_assignment ha
    have h2 := length_of_stringOpened hu
    omega

/-! ## Openings in front of other text -/

/-- Whether a word is found does not depend on what follows a last character that is none of its
letters; that character stays the last one. -/
theorem word?_append {letters : List Char} (hc : ∀ l ∈ letters, foldsTo l c = false)
    (hlast : cs.getLast? = some c) (more : List Char) :
    word? letters (cs ++ more) = (word? letters cs).map (fun p => (p.1, p.2 ++ more)) ∧
      ∀ p, word? letters cs = some p → p.2.getLast? = some c := by
  fun_induction word? letters cs with
  | case1 cs =>
    refine ⟨by simp [word?], fun p hp => ?_⟩
    cases hp
    exact hlast
  | case2 => cases hlast
  | case3 letter ls d r hd ih =>
    cases r with
    | nil =>
      -- the last character is no letter of the word
      obtain rfl : d = c := by simpa using hlast
      rw [hc letter List.mem_cons_self] at hd
      cases hd
    | cons e r =>
      obtain ⟨happend, hrest⟩ :=
        ih (fun l hl => hc l (List.mem_cons_of_mem _ hl)) (by simpa using hlast)
      constructor
      · rw [List.cons_append, word?, if_pos hd, happend]
        simp [Option.map_map, Function.comp_def]
      · intro p hp
        obtain ⟨q, hq, rfl⟩ := Option.map_eq_some_iff.1 hp
        exact hrest q hq
  | case4 letter ls d r hd => simp [word?, hd]

/-- How far a text is blank does not depend on what follows a last character that is not. -/
theorem dropWhile_append (hc : isBlank c = false) (hlast : cs.getLast? = some c)
    (more : List Char) :
    (cs ++ more).dropWhile isBlank = cs.dropWhile isBlank ++ more ∧
      (cs ++ more).takeWhile isBlank = cs.takeWhile isBlank ∧
      (cs.dropWhile isBlank).getLast? = some c := by
  induction cs with
  | nil => cases hlast
  | cons d r ih =>
    cases hd : isBlank d with
    | false => simp [hd, hlast]
    | true =>
      cases r with
      | nil =>
        obtain rfl : d = c := by simpa using hlast
        rw [hd] at hc
        cases hc
      | cons e r =>
        obtain ⟨h1, h2, h3⟩ := ih (by simpa using hlast)
        exact ⟨by simpa [hd] using h1, by simpa [hd] using h2, by simpa [hd] using h3⟩

/-- Whether a text begins with an assignment does not depend on what follows a character at which
assignments stop. -/
theorem assignment?_append (hc : Stops c) (hlast : cs.getLast? = some c) (more : List Char) :
    assignment? (cs ++ more) = (assignment? cs).map (fun p => (p.1, p.2 ++ more)) ∧
      ∀ p, assignment? cs = some p → p.2.getLast? = some c := by
  obtain ⟨hword, hrest⟩ := word?_append hc.letter hlast more
  unfold assignment?
  rw [hword]
  cases hw : word? ['p', 'a', 's', 's', 'w', 'o', 'r', 'd'] cs with
  | none => simp
  | some p =>
    obtain ⟨w, r⟩ := p
    obtain ⟨hdrop, htake, hlast'⟩ := dropWhile_append hc.blank (hrest _ hw) more
    simp only [Option.map_some, hdrop, htake]
    cases hr : r.dropWhile isBlank with
    | nil =>
      rw [hr] at hlast'
      cases hlast'
    | cons d r' =>
      rw [hr] at hlast'
      by_cases hd : d = '='
      · subst hd
        -- the equals sign is not the last character
        cases r' with
        | nil => exact absurd (by simpa using hlast') hc.equals.symm
        | cons e r'' =>
          have hback : (e :: r'').getLast? = some c := by simpa using hlast'
          obtain ⟨hdrop', htake', hlast''⟩ := dropWhile_append hc.blank hback more
          simp only [List.cons_append] at hdrop' htake'
          simp [hdrop', htake', hlast'']
      · simp [hd]

/-- Whether a text begins with a string does not depend on what follows a character at which
assignments stop. -/
theorem stringOpened?_append (hc : Stops c) (hlast : cs.getLast? = some c) (more : List Char) :
    stringOpened? (cs ++ more) = (stringOpened? cs).map (· ++ more) ∧
      ∀ u, stringOpened? cs = some u → u.getLast? = some c := by
  cases cs with
  | nil => cases hlast
  | cons d r =>
    by_cases hd : d = '\''
    · subst hd
      cases r with
      | nil => exact absurd (by simpa using hlast) hc.quote.symm
      | cons e r => simpa [stringOpened?] using hlast
    · cases r with
      | nil =>
        obtain rfl : d = c := by simpa using hlast
        have hN : ¬ (d = 'N' ∨ d = 'n') := fun h => h.elim hc.upper hc.lower
        cases more with
        | nil => simp [stringOpened?, hd]
        | cons e r => by_cases he : e = '\'' <;> simp [stringOpened?, hd, he, hN]
      | cons e r =>
        by_cases he : e = '\''
        · subst he
          cases r with
          | nil => exact absurd (by simpa using hlast) hc.quote.symm
          | cons f r =>
            by_cases hN : d = 'N' ∨ d = 'n'
            · simpa [stringOpened?, hN] using hlast
            · simp [stringOpened?, hN]
        · simp [stringOpened?, hd, he]

/-- Whether a text begins with a string that is assigned to a password does not depend on what
follows a character at which assignments stop. -/
theorem opened?_append (hc : Stops c) (hlast : cs.getLast? = some c) (more : List Char) :
    opened? (cs ++ more) = (opened? cs).map (fun p => (p.1, p.2 ++ more)) ∧
      ∀ p, opened? cs = some p → p.2.getLast? = some c := by
  obtain ⟨hassign, hrest⟩ := assignment?_append hc hlast more
  unfold opened?
  rw [hassign]
  cases ha : assignment? cs with
  | none => simp
  | some p =>
    obtain ⟨head, r⟩ := p
    obtain ⟨hstring, hrest'⟩ := stringOpened?_append hc (hrest _ ha) more
    constructor
    · simp [hstring, Function.comp_def]
    · intro p hp
      obtain ⟨u, hu, rfl⟩ := Option.map_eq_some_iff.1 hp
      exact hrest' u hu

/-! ## Strings that are left open -/

/-- Whether the masking of a text, from the left, ends inside a string that is assigned to a
password and not closed. -/
def leavesOpen (cs : List Char) : Bool :=
  match _h : opened? cs with
  | some (_, u) =>
    match _h' : undouble '\'' u with
    | some (_, rest) => leavesOpen rest
    | none => true
  | none => match cs with
    | [] => false
    | _ :: r => leavesOpen r
termination_by cs.length
decreasing_by
  · have h1 := length_of_opened ‹opened? cs = _›
    have h2 := length_of_undouble ‹undouble _ u = _›
    omega
  · simp

/-- A character at which no string is opened is passed over. -/
theorem leavesOpen_cons {r : List Char} (h : opened? (c :: r) = none) :
    leavesOpen (c :: r) = leavesOpen r := by
  rw [leavesOpen]
  split
  · rename_i h'
    rw [h] at h'
    cases h'
  · rfl

/-- A word and what follows it are the text. -/
theorem word?_eq_some {letters w r : List Char} (h : word? letters cs = some (w, r)) :
    cs = w ++ r := by
  fun_induction word? letters cs generalizing w with
  | case1 => cases h; rfl
  | case2 => cases h
  | case3 letter ls d r' hd ih =>
    obtain ⟨p, hp, he⟩ := Option.map_eq_some_iff.1 h
    cases he
    rw [ih hp, List.cons_append]
  | case4 => cases h

/-- There is an equals sign in every assignment. -/
theorem equals_mem_of_assignment {head r : List Char} (h : assignment? cs = some (head, r)) :
    '=' ∈ cs := by
  unfold assignment? at h
  split at h
  · cases h
  · rename_i w t hw
    split at h
    · rename_i t' ht
      have hmem : '=' ∈ t.dropWhile isBlank := ht ▸ List.mem_cons_self
      rw [word?_eq_some hw]
      exact List.mem_append_right w ((List.dropWhile_sublist isBlank).mem hmem)
    · cases h

/-- Where there is no equals sign, no string is opened. -/
theorem opened?_eq_none (h : '=' ∉ cs) : opened? cs = none := by
  unfold opened?
  cases ha : assignment? cs with
  | none => rfl
  | some p => exact absurd (equals_mem_of_assignment ha) h

/-- A text in which nothing is assigned leaves no string open. -/
theorem leavesOpen_eq_false (h : '=' ∉ cs) : leavesOpen cs = false := by
  fun_induction leavesOpen cs with
  | case1 cs head u hopen => rw [opened?_eq_none h] at hopen; cases hopen
  | case2 cs head u hopen => rw [opened?_eq_none h] at hopen; cases hopen
  | case3 => rfl
  | case4 d r hopen ih => exact ih fun hr => h (List.mem_cons_of_mem _ hr)

/-- A front in which the word `password` begins nowhere leaves open what the rest leaves open. -/
theorem leavesOpen_append {front : String} (hfront : front = String.ofList cs)
    (hword : cs.tails.all fun t => (word? ['p', 'a', 's', 's', 'w', 'o', 'r', 'd'] t).isNone)
    (hc : ∀ l ∈ ['p', 'a', 's', 's', 'w', 'o', 'r', 'd'], foldsTo l c = false)
    (hlast : cs = [] ∨ cs.getLast? = some c) (more : List Char) :
    leavesOpen (front.toList ++ more) = leavesOpen more := by
  rw [hfront, String.toList_ofList]
  clear hfront
  induction cs with
  | nil => rfl
  | cons d r ih =>
    have hlast := hlast.resolve_left (List.cons_ne_nil d r)
    simp only [List.tails_cons, List.all_cons, Bool.and_eq_true, Option.isNone_iff_eq_none] at hword
    have hnone : word? ['p', 'a', 's', 's', 'w', 'o', 'r', 'd'] (d :: r ++ more) = none := by
      rw [(word?_append hc hlast more).1, hword.1]
      rfl
    have hopen : opened? (d :: (r ++ more)) = none := by
      rw [List.cons_append] at hnone
      rw [opened?, assignment?, hnone]
    have hr : r = [] ∨ r.getLast? = some c := by
      cases r with
      | nil => exact .inl rfl
      | cons e r => exact .inr (by simpa using hlast)
    rw [List.cons_append, leavesOpen_cons hopen]
    exact ih hword.2 hr

/-- A string ends where the quote that is not doubled stands, if there is one. -/
theorem stringClosed?_of_undouble {t rest : List Char} (h : undouble '\'' cs = some (t, rest))
    (lastPair : Option (List Char)) : stringClosed? lastPair cs = some rest := by
  fun_induction undouble '\'' cs generalizing t lastPair with
  | case1 => cases h
  | case2 => cases h; rfl
  | case3 => cases h
  | case4 r ih =>
    obtain ⟨p, hp, he⟩ := Option.map_eq_some_iff.1 h
    cases he
    exact ih hp _
  | case5 d r hd =>
    cases h
    simp [stringClosed?]
  | case6 c d r hc ih =>
    obtain ⟨p, hp, he⟩ := Option.map_eq_some_iff.1 h
    cases he
    simp [stringClosed?, hc, ih hp]

/-- There is nothing to mask in an empty text. -/
theorem maskChars_nil : maskChars [] = [] := by
  rw [maskChars]
  rfl

/-- A secret is replaced by asterisks. -/
theorem maskChars_of_secret {head rest : List Char} (h : secret? cs = some (head, rest)) :
    maskChars cs = head ++ maskedString ++ maskChars rest := by
  rw [maskChars]
  split
  · rename_i head' rest' h'
    rw [h] at h'
    cases h'
    rfl
  · rename_i h'
    rw [h] at h'
    cases h'

/-- A character at which no secret begins is kept. -/
theorem maskChars_cons {r : List Char} (h : secret? (c :: r) = none) :
    maskChars (c :: r) = c :: maskChars r := by
  rw [maskChars]
  split
  · rename_i h'
    rw [h] at h'
    cases h'
  · rfl

/-- An opened string that is closed in front of a character at which assignments stop is a secret,
whatever follows. -/
theorem secret?_of_opened {head u t rest : List Char} (hc : Stops c)
    (hlast : cs.getLast? = some c) (hopen : opened? cs = some (head, u))
    (hclose : undouble '\'' u = some (t, rest)) (more : List Char) :
    secret? (cs ++ more) = some (head, rest ++ more) ∧ rest.getLast? = some c := by
  obtain ⟨happend, hback⟩ := opened?_append hc hlast more
  have hrest := getLast?_of_undouble hc.quote (hback _ hopen) hclose
  have hclose' := undouble_append hclose more fun h => by simp [h] at hrest
  refine ⟨?_, hrest⟩
  rw [secret?_eq, happend, hopen]
  simp [stringClosed?_of_undouble hclose']

/-- Where no string is opened, no secret begins, whatever follows a character at which assignments
stop. -/
theorem secret?_of_not_opened (hc : Stops c) (hlast : cs.getLast? = some c)
    (hopen : opened? cs = none) (more : List Char) : secret? (cs ++ more) = none := by
  rw [secret?_eq, (opened?_append hc hlast more).1, hopen]
  rfl

/-- A front that leaves no string open, and what follows it, are masked each for itself. -/
theorem maskChars_append (hc : Stops c) (hlast : cs = [] ∨ cs.getLast? = some c)
    (h : leavesOpen cs = false) (more : List Char) :
    maskChars (cs ++ more) = maskChars cs ++ maskChars more := by
  fun_induction leavesOpen cs with
  | case1 cs head u hopen t rest hclose ih =>
    have hlast := hlast.resolve_left fun he => by rw [he] at hopen; cases hopen
    obtain ⟨hsecret, hrest⟩ := secret?_of_opened hc hlast hopen hclose more
    have hsecret' := (secret?_of_opened hc hlast hopen hclose []).1
    rw [List.append_nil, List.append_nil] at hsecret'
    rw [maskChars_of_secret hsecret, maskChars_of_secret hsecret', ih (.inr hrest) h]
    simp
  | case2 => cases h
  | case3 => rw [maskChars_nil, List.nil_append, List.nil_append]
  | case4 d r hopen ih =>
    have hlast := hlast.resolve_left (List.cons_ne_nil d r)
    have hsecret := secret?_of_not_opened hc hlast hopen more
    have hsecret' := secret?_of_not_opened hc hlast hopen []
    rw [List.append_nil] at hsecret'
    have hr : r = [] ∨ r.getLast? = some c := by
      cases r with
      | nil => exact .inl rfl
      | cons e r => exact .inr (by simpa using hlast)
    rw [List.cons_append] at hsecret ⊢
    rw [maskChars_cons hsecret, maskChars_cons hsecret', ih hr h, List.cons_append]

/-- A front that leaves a string open is masked together with what follows up to the next quote
that is not doubled. -/
theorem maskChars_append_of_leavesOpen (hc : Stops c) (hlast : cs.getLast? = some c)
    (h : leavesOpen cs = true) :
    ∃ shown, ∀ more t rest, undouble '\'' more = some (t, rest) →
      maskChars (cs ++ more) = shown ++ maskChars rest := by
  fun_induction leavesOpen cs with
  | case1 cs head u hopen t rest hclose ih =>
    obtain ⟨shown, hshown⟩ := ih (secret?_of_opened hc hlast hopen hclose []).2 h
    refine ⟨head ++ maskedString ++ shown, fun more t' rest' hm => ?_⟩
    have hsecret := (secret?_of_opened hc hlast hopen hclose more).1
    rw [maskChars_of_secret hsecret, hshown more t' rest' hm]
    simp
  | case2 cs head u hopen hclose =>
    obtain ⟨v, hv⟩ := undouble_append_of_none hclose
    refine ⟨head ++ maskedString, fun more t rest hm => maskChars_of_secret ?_⟩
    have hu : undouble '\'' (u ++ more) = some (v ++ t, rest) := by rw [hv, hm]; rfl
    rw [secret?_eq, (opened?_append hc hlast more).1, hopen]
    simp [stringClosed?_of_undouble hu]
  | case3 => cases h
  | case4 d r hopen ih =>
    cases r with
    | nil => simp [leavesOpen, opened?, assignment?, word?] at h
    | cons e r =>
      obtain ⟨shown, hshown⟩ := ih (by simpa using hlast) h
      refine ⟨d :: shown, fun more t rest hm => ?_⟩
      have hsecret := secret?_of_not_opened hc hlast hopen more
      rw [List.cons_append] at hsecret ⊢
      rw [maskChars_cons hsecret, hshown more t rest hm, List.cons_append]

/-- A quoted password behind its assignment is masked, whatever it is. -/
theorem maskChars_literal {head : List Char}
    (hhead : ∀ r, assignment? (head ++ 'N' :: r) = some (head, 'N' :: r)) (password : String)
    (hmore : more.head? ≠ some '\'') :
    maskChars (head ++ (literal password).toList ++ more) =
      head ++ maskedString ++ maskChars more := by
  have hliteral : (literal password).toList =
      'N' :: '\'' :: (doubled '\'' password.toList ++ ['\'']) := by
    simp [literal]
  apply maskChars_of_secret
  have hclose := stringClosed?_of_undouble (undouble_doubled password.toList hmore) none
  rw [hliteral, List.append_assoc, secret?, List.cons_append, hhead]
  simp [stringOpened?, hclose]

end Rollout.Sql
