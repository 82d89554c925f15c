import Rollout.Text.Blank

/-!
# Masked T-SQL

In a masked statement every string that is assigned to a password is replaced by asterisks. An
assignment is the word `password` in any case, an equals sign and a string, with blank characters
allowed around the sign.
-/

namespace Rollout.Sql

open Rollout.Text (isBlank)

/-- Whether a character is a letter of `password` up to case; the long s counts as an s. -/
def foldsTo (letter c : Char) : Bool :=
  c == letter || c.toLower == letter || (letter == 's' && c == '\u017f')

/-- The characters of a word, up to case, at the front of a text: the word as written and the
rest. -/
def word? : List Char → List Char → Option (List Char × List Char)
  | [], cs => some ([], cs)
  | _ :: _, [] => none
  | letter :: more, c :: r =>
    if foldsTo letter c then (word? more r).map fun (w, rest) => (c :: w, rest) else none

/-- The front of a text up to and with the equals sign of an assignment to a password, with the
blank characters behind the sign, and what follows. -/
def assignment? (cs : List Char) : Option (List Char × List Char) :=
  match word? ['p', 'a', 's', 's', 'w', 'o', 'r', 'd'] cs with
  | none => none
  | some (w, r) =>
    match r.dropWhile isBlank with
    | '=' :: r' =>
      some (w ++ r.takeWhile isBlank ++ '=' :: r'.takeWhile isBlank, r'.dropWhile isBlank)
    | _ => none

/-- What follows the quote that opens a string, national or not. -/
def stringOpened? : List Char → Option (List Char)
  | '\'' :: r => some r
  | c :: '\'' :: r => if c = 'N' ∨ c = 'n' then some r else none
  | _ => none

/-- What follows the quote that closes a string. The quote is the first one that is not doubled;
where there is none, it is the first of the last doubled pair, `lastPair` being what follows the
first quote of the last pair so far. -/
def stringClosed? (lastPair : Option (List Char)) : List Char → Option (List Char)
  | [] => lastPair
  | ['\''] => some []
  | '\'' :: '\'' :: r => stringClosed? (some ('\'' :: r)) r
  | '\'' :: c :: r => some (c :: r)
  | _ :: r => stringClosed? lastPair r

/-- A secret at the front of a text: the assignment as written and what follows the string. -/
def secret? (cs : List Char) : Option (List Char × List Char) :=
  match assignment? cs with
  | none => none
  | some (head, r) => ((stringOpened? r).bind (stringClosed? none)).map fun rest => (head, rest)

/-- The characters that stand for a masked string. -/
def maskedString : List Char :=
  ['N', '\'', '*', '*', '*', '\'']

/-- What follows a word is no longer than the text. -/
theorem length_of_word {letters cs w r : List Char} (h : word? letters cs = some (w, r)) :
    r.length ≤ cs.length := by
  fun_induction word? letters cs generalizing w with
  | case1 => simp_all
  | case2 => simp at h
  | case3 letter more c t hc ih =>
    simp only [Option.map_eq_some_iff, Prod.exists, Prod.mk.injEq] at h
    obtain ⟨w', r', h', -, rfl⟩ := h
    have := ih h'
    simp only [List.length_cons]
    omega
  | case4 => simp at h

/-- What follows an assignment is shorter than the text. -/
theorem length_of_assignment {cs a r : List Char} (h : assignment? cs = some (a, r)) :
    r.length < cs.length := by
  unfold assignment? at h
  split at h
  · simp at h
  · rename_i w t hw
    split at h
    · rename_i t' ht
      simp only [Option.some.injEq, Prod.mk.injEq] at h
      have h1 := length_of_word hw
      have h2 : (t.dropWhile isBlank).length ≤ t.length :=
        (List.dropWhile_sublist isBlank).length_le
      have h3 : (t'.dropWhile isBlank).length ≤ t'.length :=
        (List.dropWhile_sublist isBlank).length_le
      rw [ht] at h2
      simp only [List.length_cons] at h2
      rw [← h.2]
      omega
    · simp at h

/-- What follows an opening quote is shorter than the text. -/
theorem length_of_stringOpened {cs r : List Char} (h : stringOpened? cs = some r) :
    r.length < cs.length := by
  unfold stringOpened? at h
  split at h
  · simp only [Option.some.injEq] at h
    simp [← h]
  · split at h
    · simp only [Option.some.injEq] at h
      simp only [← h, List.length_cons]
      omega
    · simp at h
  · simp at h

/-- What follows a closed string is no longer than the text. -/
theorem length_of_stringClosed {lastPair : Option (List Char)} {cs r : List Char} {n : Nat}
    (hl : ∀ t, lastPair = some t → t.length ≤ n) (hn : cs.length ≤ n)
    (h : stringClosed? lastPair cs = some r) : r.length ≤ n := by
  fun_induction stringClosed? lastPair cs with
  | case1 => exact hl r h
  | case2 => simp_all [← Option.some.inj h]
  | case3 lastPair t ih =>
    simp only [List.length_cons] at hn
    refine ih ?_ (by omega) h
    intro t' ht'
    simp only [Option.some.injEq] at ht'
    simp only [← ht', List.length_cons]
    omega
  | case4 lastPair c t _ =>
    simp only [Option.some.injEq] at h
    simp only [List.length_cons] at hn
    simp only [← h, List.length_cons]
    omega
  | case5 lastPair c t _ _ _ ih =>
    simp only [List.length_cons] at hn
    exact ih hl (by omega) h

/-- What follows a secret is shorter than the text. -/
theorem length_of_secret {cs a r : List Char} (h : secret? cs = some (a, r)) :
    r.length < cs.length := by
  unfold secret? at h
  split at h
  · simp at h
  · rename_i b t ha
    simp only [Option.map_eq_some_iff, Option.bind_eq_some_iff, Prod.mk.injEq] at h
    obtain ⟨rest, ⟨u, hu, hc⟩, -, rfl⟩ := h
    have h1 := length_of_assignment ha
    have h2 := length_of_stringOpened hu
    have h3 := length_of_stringClosed (n := u.length) (by simp) (Nat.le_refl _) hc
    omega

/-- Characters with every secret masked, from the left. -/
def maskChars (cs : List Char) : List Char :=
  match _h : secret? cs with
  | some (head, rest) => head ++ maskedString ++ maskChars rest
  | none => match cs with
    | [] => []
    | c :: r => c :: maskChars r
termination_by cs.length
decreasing_by
  · exact length_of_secret ‹_›
  · simp

/-- A statement fit to be shown: every string assigned to a password is masked. -/
def mask (sql : String) : String :=
  String.ofList (maskChars sql.toList)

end Rollout.Sql
