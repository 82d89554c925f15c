/-!
# Blank characters

The characters with Unicode's White_Space property, and the trimming of texts by them. A trimmed
text keeps everything between its first and its last character that is not blank.
-/

namespace Rollout.Text

/-- The characters of Unicode's White_Space property; the zero-width space is not one of them. -/
def isBlank (c : Char) : Bool :=
  let n := c.toNat
  (0x09 ≤ n && n ≤ 0x0D) || n == 0x20 || n == 0x85 || n == 0xA0 || n == 0x1680 ||
    (0x2000 ≤ n && n ≤ 0x200A) || n == 0x2028 || n == 0x2029 || n == 0x202F || n == 0x205F ||
    n == 0x3000

/-- Characters without the blank ones at their front. -/
def trimFront (cs : List Char) : List Char :=
  cs.dropWhile isBlank

/-- Characters without the blank ones at their back. -/
def trimBack (cs : List Char) : List Char :=
  (cs.reverse.dropWhile isBlank).reverse

/-- Characters without the blank ones at either end. -/
def trimChars (cs : List Char) : List Char :=
  trimBack (trimFront cs)

/-- A text without the blank characters at either end. -/
def trim (s : String) : String :=
  String.ofList (trimChars s.toList)

/-- A text is blank when it holds blank characters only, or none at all. -/
def isBlankText (s : String) : Bool :=
  s.toList.all isBlank

/-- Characters are trimmed of blank ones at their front and at their back, and of nothing more. -/
theorem exists_eq_append_trimChars (cs : List Char) : ∃ front back,
    (∀ c ∈ front, isBlank c = true) ∧ (∀ c ∈ back, isBlank c = true) ∧
      cs = front ++ trimChars cs ++ back := by
  have hall (l : List Char) : ∀ c ∈ l.takeWhile isBlank, isBlank c = true :=
    List.all_eq_true.1 List.all_takeWhile
  refine ⟨cs.takeWhile isBlank, ((trimFront cs).reverse.takeWhile isBlank).reverse, hall _, ?_, ?_⟩
  · intro c hc
    exact hall _ c (List.mem_reverse.1 hc)
  · rw [trimChars, trimBack, List.append_assoc, ← List.reverse_append,
      List.takeWhile_append_dropWhile, List.reverse_reverse, trimFront,
      List.takeWhile_append_dropWhile]

end Rollout.Text
