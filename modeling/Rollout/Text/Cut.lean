/-!
# Cutting texts at marks

A text is cut at the first place where a mark stands, which is one character or the same character
twice. Nothing but the mark is lost.
-/

namespace Rollout.Text

/-- The characters before and after the first `mark`, if there is one. -/
def cutAt (mark : Char) : List Char → Option (List Char × List Char)
  | [] => none
  | c :: r => if c = mark then some ([], r) else (cutAt mark r).map fun (p, q) => (c :: p, q)

/-- The characters before and after the first place where `mark` stands twice in a row. -/
def cutAtPair (mark : Char) : List Char → Option (List Char × List Char)
  | [] => none
  | [_] => none
  | c :: d :: r =>
    if c = mark ∧ d = mark then some ([], r)
    else (cutAtPair mark (d :: r)).map fun (p, q) => (c :: p, q)

/-- The fields between the marks of a text; a text without a mark is one field. -/
def fields (mark : Char) : List Char → List (List Char)
  | [] => [[]]
  | c :: r =>
    if c = mark then [] :: fields mark r
    else match fields mark r with
      | [] => [[c]]
      | f :: fs => (c :: f) :: fs

/-- A text without the byte order mark in front of it, if there is one. -/
def withoutOrderMark : List Char → List Char
  | '\ufeff' :: r => r
  | cs => cs

/-- A line without the carriage return that ends it, if one does. -/
def withoutReturn (l : List Char) : List Char :=
  if l.getLast? = some '\r' then l.dropLast else l

/-- The lines of a text: a line ends at a line feed, which a carriage return may precede, and
what follows the last line feed is a line only if it is not empty. -/
def lines (cs : List Char) : List (List Char) :=
  let parts := fields '\n' cs
  let last := parts.getLast?.getD []
  parts.dropLast.map withoutReturn ++ (if last = [] then [] else [last])

/-- A text is cut at the first mark, so there is none in the part in front of it. -/
theorem cutAt_eq_some {mark : Char} {cs p q : List Char} (h : cutAt mark cs = some (p, q)) :
    cs = p ++ mark :: q ∧ mark ∉ p := by
  induction cs generalizing p with
  | nil => simp [cutAt] at h
  | cons c r ih =>
    by_cases hc : c = mark
    · simp only [cutAt, hc, if_true, Option.some.injEq, Prod.mk.injEq] at h
      obtain ⟨rfl, rfl⟩ := h
      simp [hc]
    · simp only [cutAt, hc, if_false, Option.map_eq_some_iff, Prod.exists, Prod.mk.injEq] at h
      obtain ⟨p', q', h', rfl, rfl⟩ := h
      obtain ⟨rfl, hp⟩ := ih h'
      exact ⟨rfl, by simp [hp, Ne.symm hc]⟩

/-- A text is cut where two marks stand side by side. -/
theorem cutAtPair_eq_some {mark : Char} {cs p q : List Char}
    (h : cutAtPair mark cs = some (p, q)) : cs = p ++ mark :: mark :: q := by
  fun_induction cutAtPair mark cs generalizing p with
  | case1 => simp at h
  | case2 => simp at h
  | case3 c d r hcd =>
    simp only [Option.some.injEq, Prod.mk.injEq] at h
    obtain ⟨rfl, rfl⟩ := h
    simp [hcd.1, hcd.2]
  | case4 c d r hcd ih =>
    simp only [Option.map_eq_some_iff, Prod.exists, Prod.mk.injEq] at h
    obtain ⟨p', q', h', rfl, rfl⟩ := h
    simp [ih h']

/-- What follows a pair of marks is shorter than the text by two at least. -/
theorem length_of_cutAtPair {mark : Char} {cs p q : List Char}
    (h : cutAtPair mark cs = some (p, q)) : q.length + 2 ≤ cs.length := by
  rw [cutAtPair_eq_some h]
  simp

end Rollout.Text
