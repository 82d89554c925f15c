import Mathlib.Data.List.Basic
import Rollout.Text.Cut

/-!
# Cuts, fields and lines

A text is cut exactly where its first mark stands (`cutAt_eq_some_iff`). The fields of a text are
what `List.splitOn` splits it into, so fields without marks are found again where they are put
together by marks. A line is found again whatever follows it, but for a carriage return at its end
(`lines_append`).
-/

namespace Rollout.Text

variable {mark : Char}

/-- A text is cut into what stands in front of the first mark and what stands behind it. -/
theorem cutAt_eq_some_iff {cs front back : List Char} :
    cutAt mark cs = some (front, back) ↔ mark ∉ front ∧ cs = front ++ mark :: back := by
  refine ⟨fun h => (cutAt_eq_some h).symm, ?_⟩
  rintro ⟨hf, rfl⟩
  induction front with
  | nil => simp [cutAt]
  | cons c r ih =>
    obtain ⟨hc, hr⟩ := not_or.1 (mt List.mem_cons.2 hf)
    simp [cutAt, Ne.symm hc, ih hr]

/-- A text is cut unless there is no mark in it. -/
theorem cutAt_eq_none_iff {cs : List Char} : cutAt mark cs = none ↔ mark ∉ cs := by
  rw [← not_iff_not, ← ne_eq, Option.ne_none_iff_exists', not_not]
  constructor
  · rintro ⟨⟨front, back⟩, h⟩
    simp [(cutAt_eq_some h).1]
  · intro h
    obtain ⟨front, back, hcs, hf⟩ := List.eq_append_cons_of_mem h
    exact ⟨(front, back), cutAt_eq_some_iff.2 ⟨hf, hcs⟩⟩

/-- To cut at a mark is to split there. -/
theorem fields_eq_splitOn (mark : Char) (cs : List Char) : fields mark cs = cs.splitOn mark := by
  induction cs with
  | nil => rfl
  | cons c r ih =>
    obtain ⟨f, fs, hsplit⟩ := List.exists_cons_of_ne_nil (List.splitOn_ne_nil mark r)
    rw [fields, ih, List.splitOn_cons_eq_if_modifyHead, hsplit]
    simp

/-- There is one field at least, be it an empty one. -/
theorem fields_ne_nil (mark : Char) (cs : List Char) : fields mark cs ≠ [] := by
  rw [fields_eq_splitOn]
  exact List.splitOn_ne_nil mark cs

/-- A mark between two texts ends a field. -/
theorem fields_append (mark : Char) (cs ds : List Char) :
    fields mark (cs ++ mark :: ds) = fields mark cs ++ fields mark ds := by
  simp only [fields_eq_splitOn, List.splitOn_append_cons_self]

/-- A text without the mark is one field. -/
theorem fields_of_notMem {cs : List Char} (h : mark ∉ cs) : fields mark cs = [cs] := by
  rw [fields_eq_splitOn]
  exact List.splitOn_eq_singleton h

/-- No field has the mark in it. -/
theorem notMem_of_mem_fields {cs f : List Char} (h : f ∈ fields mark cs) : mark ∉ f := by
  induction cs generalizing f with
  | nil =>
    simp only [fields, List.mem_singleton] at h
    simp [h]
  | cons c r ih =>
    rw [fields] at h
    split at h
    · rcases List.mem_cons.1 h with rfl | h
      · simp
      · exact ih h
    · rename_i hc
      cases hf : fields mark r with
      | nil => exact absurd hf (fields_ne_nil mark r)
      | cons g gs =>
        rw [hf] at h
        rcases List.mem_cons.1 h with rfl | h
        · have hg : mark ∉ g := ih (hf ▸ List.mem_cons_self)
          simp [Ne.symm hc, hg]
        · exact ih (hf ▸ List.mem_cons_of_mem _ h)

/-- Fields without marks, put together by marks, are found again. -/
theorem fields_intercalate {l : List (List Char)} (hne : l ≠ []) (h : ∀ f ∈ l, mark ∉ f) :
    fields mark ([mark].intercalate l) = l := by
  rw [fields_eq_splitOn]
  exact List.splitOn_intercalate mark h hne

/-- The characters of fields that are put together by marks. -/
theorem mem_intercalate {c : Char} {l : List (List Char)} :
    c ∈ [mark].intercalate l ↔ (2 ≤ l.length ∧ c = mark) ∨ ∃ f ∈ l, c ∈ f := by
  induction l with
  | nil => simp
  | cons f r ih =>
    cases r with
    | nil => simp
    | cons g r =>
      rw [List.intercalate_cons_cons, List.mem_append, List.mem_append, ih]
      simp only [List.length_cons, List.mem_singleton, List.exists_mem_cons_iff]
      grind

/-- A line that ends at a line feed is the first one, and the others are those of what follows. -/
theorem lines_append {line : List Char} (h : '\n' ∉ line) (rest : List Char) :
    lines (line ++ '\n' :: rest) = withoutReturn line :: lines rest := by
  obtain ⟨f, fs, hrest⟩ := List.exists_cons_of_ne_nil (fields_ne_nil '\n' rest)
  unfold lines
  rw [fields_append, fields_of_notMem h, hrest]
  simp

/-- The carriage return at the end of a line is dropped. -/
theorem withoutReturn_concat (line : List Char) : withoutReturn (line ++ ['\r']) = line := by
  simp [withoutReturn]

theorem withoutReturn_of_ne {line : List Char} (h : line.getLast? ≠ some '\r') :
    withoutReturn line = line :=
  if_neg h

/-- To drop a carriage return leaves the other characters as they are. -/
theorem sublist_withoutReturn (line : List Char) : List.Sublist (withoutReturn line) line := by
  unfold withoutReturn
  split
  · exact List.dropLast_sublist line
  · exact List.Sublist.refl line

end Rollout.Text
