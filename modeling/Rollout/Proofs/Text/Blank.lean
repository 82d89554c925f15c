import Mathlib.Data.List.Basic
import Rollout.Text.Blank

/-!
# Trimmed texts

What is left of a text without the blank characters at either end is stated by what stands around
it, and trimming finds exactly that (`stripped_iff`).
-/

namespace Rollout.Text

/-- `Stripped cs w` says that `w` is what is left of `cs` without the blank characters at either
end. -/
structure Stripped (cs w : List Char) : Prop where
  around : ∃ front back, (∀ c ∈ front, isBlank c = true) ∧ (∀ c ∈ back, isBlank c = true) ∧
    cs = front ++ w ++ back
  head : ∀ c ∈ w.head?, isBlank c = false
  last : ∀ c ∈ w.getLast?, isBlank c = false

variable {cs w : List Char}

/-- Nothing is dropped in front of a text that does not begin with a blank. -/
theorem dropWhile_of_head (h : ∀ c ∈ w.head?, isBlank c = false) : w.dropWhile isBlank = w := by
  cases w with
  | nil => rfl
  | cons c r => exact List.dropWhile_cons_of_neg (by simp [h c rfl])

/-- Only one text is left without the blank characters at either end, which is the trimmed one. -/
theorem Stripped.eq_trimChars (h : Stripped cs w) : w = trimChars cs := by
  obtain ⟨front, back, hfront, hback, rfl⟩ := h.around
  have htrim : trimFront (front ++ w ++ back) = (w ++ back).dropWhile isBlank := by
    rw [trimFront, List.append_assoc, List.dropWhile_append_of_pos hfront]
  have hnone : back.dropWhile isBlank = [] := by
    rw [← List.append_nil back, List.dropWhile_append_of_pos hback]
    rfl
  have hkeep : (w ++ back).dropWhile isBlank = if w = [] then [] else w ++ back := by
    cases w with
    | nil => simpa using hnone
    | cons c r =>
      have hhead : ∀ d ∈ (c :: r ++ back).head?, isBlank d = false := h.head
      simpa using dropWhile_of_head hhead
  rw [trimChars, htrim, hkeep, trimBack]
  split
  · subst w
    rfl
  · have hback' : ∀ c ∈ back.reverse, isBlank c = true := fun c hc =>
      hback c (List.mem_reverse.1 hc)
    rw [List.reverse_append, List.dropWhile_append_of_pos hback',
      dropWhile_of_head (by simpa using h.last), List.reverse_reverse]

/-- What dropping blank characters stops at is not blank. -/
theorem head?_dropWhile (cs : List Char) :
    ∀ c ∈ (cs.dropWhile isBlank).head?, isBlank c = false := by
  intro c hc
  have h := List.head?_dropWhile_not isBlank cs
  rw [Option.mem_def.1 hc] at h
  exact h

/-- To trim a text leaves it without blanks at its ends. -/
theorem stripped_trimChars (cs : List Char) : Stripped cs (trimChars cs) where
  around := exists_eq_append_trimChars cs
  head c hc := by
    -- the trimmed text begins as the one that is trimmed at its front only
    refine head?_dropWhile cs c ?_
    have hsplit := List.takeWhile_append_dropWhile (p := isBlank) (l := (trimFront cs).reverse)
    rw [Option.mem_def, trimChars, trimBack, List.head?_reverse] at hc
    rw [Option.mem_def, ← trimFront, ← List.getLast?_reverse, ← hsplit, List.getLast?_append, hc]
    rfl
  last c hc := by
    refine head?_dropWhile (trimFront cs).reverse c ?_
    rwa [trimChars, trimBack, List.getLast?_reverse] at hc

/-- Only the trimmed text is the text without the blanks at its ends. -/
theorem stripped_iff : Stripped cs w ↔ w = trimChars cs :=
  ⟨Stripped.eq_trimChars, fun h => h ▸ stripped_trimChars cs⟩

/-- Nothing is left of a text if and only if all of it is blank. -/
theorem trimChars_eq_nil_iff : trimChars cs = [] ↔ ∀ c ∈ cs, isBlank c = true := by
  constructor
  · intro h
    obtain ⟨front, back, hfront, hback, hcs⟩ := exists_eq_append_trimChars cs
    rw [hcs, h, List.append_nil]
    exact List.forall_mem_append.2 ⟨hfront, hback⟩
  · intro h
    have hnone : Stripped cs [] := ⟨⟨cs, [], h, nofun, by simp⟩, nofun, nofun⟩
    exact hnone.eq_trimChars.symm

end Rollout.Text
