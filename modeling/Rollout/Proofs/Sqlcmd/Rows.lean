import Rollout.Proofs.Text.Blank
import Rollout.Proofs.Text.Cut
import Rollout.Sqlcmd.Rows
import Rollout.Step.Activity

/-!
# Rows read back

An output that tells rows line by line, with tabs between the cells of a row and blank lines
anywhere (`Writes`), is read back as these rows, empty cells included, whether its lines end with a
carriage return or not. So the articles that lack a subscriber are found in the output of the query
for them, in order and as often as they are told (`rows_read_back`).
-/

namespace Rollout.Sqlcmd

open Text

/-- A cell that can stand in a row: nothing in it ends a cell or a line, and no blank character
stands at either end of it. -/
structure IsCell (cell : String) : Prop where
  tab : '\t' ∉ cell.toList
  feed : '\n' ∉ cell.toList
  head : ∀ c ∈ cell.toList.head?, isBlank c = false
  last : ∀ c ∈ cell.toList.getLast?, isBlank c = false

instance (cell : String) : Decidable (IsCell cell) :=
  decidable_of_iff ('\t' ∉ cell.toList ∧ '\n' ∉ cell.toList ∧
      cell.toList.head?.all (!isBlank ·) = true ∧
      cell.toList.getLast?.all (!isBlank ·) = true) <| by
    simp only [Option.all_eq_true, Bool.not_eq_true']
    exact ⟨fun ⟨htab, hfeed, hhead, hlast⟩ => ⟨htab, hfeed, hhead, hlast⟩,
      fun ⟨htab, hfeed, hhead, hlast⟩ => ⟨htab, hfeed, hhead, hlast⟩⟩

/-- A row of cells that are not all empty, so that its line is not a blank one. -/
structure IsRow (row : Row) : Prop where
  cells : ∀ cell ∈ row, IsCell cell
  exists_ne : ∃ cell ∈ row, cell ≠ ""

instance (row : Row) : Decidable (IsRow row) :=
  decidable_of_iff ((∀ cell ∈ row, IsCell cell) ∧ ∃ cell ∈ row, cell ≠ "")
    ⟨fun ⟨hcells, hne⟩ => ⟨hcells, hne⟩, fun ⟨hcells, hne⟩ => ⟨hcells, hne⟩⟩

/-- The end of a line. -/
def IsEnding (ending : String) : Prop :=
  ending = "\n" ∨ ending = "\r\n"

/-- `Writes rows output` says that the output tells the rows, each in a line of its own with tabs
between its cells, with any number of blank lines around them. -/
inductive Writes : List Row → String → Prop
  | done : Writes [] ""
  | row {row : Row} {rows : List Row} {ending rest : String} (hending : IsEnding ending)
    (h : Writes rows rest) : Writes (row :: rows) ("\t".intercalate row ++ ending ++ rest)
  | blank {line ending rest : String} {rows : List Row} (hline : isBlankText line = true)
    (hfeed : '\n' ∉ line.toList) (hending : IsEnding ending) (h : Writes rows rest) :
    Writes rows (line ++ ending ++ rest)

variable {row : Row} {cell line ending : String}

/-- A line is found again in front of other lines. What may be lost is a carriage return of its own
in front of the line feed. -/
theorem lines_ended (hfeed : '\n' ∉ line.toList) (hending : IsEnding ending) (rest : String) :
    ∃ kept, (kept = line.toList ∨ kept = withoutReturn line.toList) ∧
      lines (line ++ ending ++ rest).toList = kept :: lines rest.toList := by
  rcases hending with rfl | rfl
  · exact ⟨_, .inr rfl, by simpa using lines_append hfeed rest.toList⟩
  · have hreturn : '\n' ∉ line.toList ++ ['\r'] := by simpa using hfeed
    have h := lines_append hreturn rest.toList
    rw [withoutReturn_concat] at h
    exact ⟨_, .inl rfl, by simpa using h⟩

/-! ## The line of a row -/

/-- The line of a row is its cells with tabs between them. -/
theorem toList_intercalate (row : Row) :
    ("\t".intercalate row).toList = ['\t'].intercalate (row.map String.toList) := by
  rw [String.toList_intercalate]
  rfl

/-- A cell has nothing that trimming takes away. -/
theorem IsCell.trimChars_eq (h : IsCell cell) : trimChars cell.toList = cell.toList := by
  have hstripped : Stripped cell.toList cell.toList :=
    ⟨⟨[], [], by simp, by simp, by simp⟩, h.head, h.last⟩
  exact hstripped.eq_trimChars.symm

/-- A row is read back from its line, with its empty cells. -/
theorem parseRow_intercalate (h : IsRow row) : parseRow ("\t".intercalate row).toList = row := by
  have hne : row.map String.toList ≠ [] := by
    obtain ⟨cell, hcell, -⟩ := h.exists_ne
    simpa using List.ne_nil_of_mem hcell
  have htab : ∀ f ∈ row.map String.toList, '\t' ∉ f := by
    simpa using fun cell hcell => (h.cells cell hcell).tab
  have hcell : ∀ cell ∈ row, String.ofList (trimChars cell.toList) = cell := fun cell hcell => by
    rw [(h.cells cell hcell).trimChars_eq, String.ofList_toList]
  rw [parseRow, toList_intercalate, fields_intercalate hne htab, List.map_map]
  exact (List.map_congr_left hcell).trans (List.map_id row)

/-- The line of a row has no line feed in it. -/
theorem feed_notMem_intercalate (h : IsRow row) : '\n' ∉ ("\t".intercalate row).toList := by
  rw [toList_intercalate, mem_intercalate]
  simpa using fun cell hcell => (h.cells cell hcell).feed

/-- The line of a row is not blank, for one of its cells is not empty. -/
theorem not_blank_intercalate (h : IsRow row) :
    (("\t".intercalate row).toList.all isBlank) = false := by
  obtain ⟨cell, hcell, hne⟩ := h.exists_ne
  obtain ⟨c, r, hcs⟩ := List.exists_cons_of_ne_nil (l := cell.toList) (by simpa using hne)
  have hmem : c ∈ ("\t".intercalate row).toList := by
    rw [toList_intercalate, mem_intercalate]
    exact .inr ⟨cell.toList, List.mem_map_of_mem hcell, by simp [hcs]⟩
  exact List.all_eq_false.2 ⟨c, hmem, by simp [(h.cells cell hcell).head c (by simp [hcs])]⟩

/-- The line of a row ends with a tab or with the last character of a cell, which is not blank. -/
theorem getLast?_intercalate (h : ∀ cell ∈ row, IsCell cell) :
    ("\t".intercalate row).toList.getLast? ≠ some '\r' := by
  rw [toList_intercalate]
  induction row with
  | nil => simp
  | cons cell r ih =>
    obtain ⟨hcell, hr⟩ := List.forall_mem_cons.1 h
    cases r with
    | nil =>
      intro hlast
      exact absurd (hcell.last '\r' (by simpa using hlast)) (by decide)
    | cons next r =>
      have hlast := ih hr
      rw [List.map_cons, List.map_cons, List.intercalate_cons_cons, List.getLast?_append]
      rw [List.map_cons] at hlast
      cases hc : (['\t'].intercalate (next.toList :: r.map String.toList)).getLast? with
      | none => simp
      | some c => simpa [hc] using hlast

/-! ## The output -/

/-- The line of a row in front of other output is read as the row. -/
theorem parseRows_row (h : IsRow row) (hending : IsEnding ending) (rest : String) :
    parseRows ("\t".intercalate row ++ ending ++ rest) = row :: parseRows rest := by
  obtain ⟨kept, hkept, hlines⟩ := lines_ended (feed_notMem_intercalate h) hending rest
  obtain rfl : kept = ("\t".intercalate row).toList := by
    rcases hkept with rfl | rfl
    · rfl
    · exact withoutReturn_of_ne (getLast?_intercalate h.cells)
  unfold parseRows
  rw [hlines, List.filter_cons, not_blank_intercalate h]
  exact congrArg (· :: _) (parseRow_intercalate h)

/-- A blank line in front of other output is passed over. -/
theorem parseRows_blank (hline : isBlankText line = true) (hfeed : '\n' ∉ line.toList)
    (hending : IsEnding ending) (rest : String) :
    parseRows (line ++ ending ++ rest) = parseRows rest := by
  obtain ⟨kept, hkept, hlines⟩ := lines_ended hfeed hending rest
  have hblank : kept.all isBlank = true := by
    have hall : ∀ c ∈ line.toList, isBlank c = true := List.all_eq_true.1 hline
    refine List.all_eq_true.2 fun c hc => hall c ?_
    rcases hkept with rfl | rfl
    · exact hc
    · exact (sublist_withoutReturn line.toList).mem hc
  unfold parseRows
  rw [hlines, List.filter_cons, hblank]
  simp

/-- Rows are read back from any output that tells them. -/
theorem parseRows_of_writes {rows : List Row} {output : String} (h : Writes rows output)
    (hrows : ∀ row ∈ rows, IsRow row) : parseRows output = rows := by
  induction h with
  | done => rfl
  | row hending _ ih =>
    obtain ⟨hrow, hrest⟩ := List.forall_mem_cons.1 hrows
    rw [parseRows_row hrow hending, ih hrest]
  | blank hline hfeed hending _ ih => rw [parseRows_blank hline hfeed hending, ih hrows]

/-- The article of a row is missing if the row names one and no subscriber. -/
theorem missingArticles_cons (article subscriber : String) (rows : List Row) :
    Step.missingArticles ([article, subscriber] :: rows) =
      if article ≠ "" ∧ subscriber = "" then article :: Step.missingArticles rows
      else Step.missingArticles rows := by
  unfold Step.missingArticles
  by_cases h : article ≠ "" ∧ subscriber = ""
  · rw [if_pos h]
    exact List.filterMap_cons_some (by simp [h.1, h.2])
  · rw [if_neg h]
    exact List.filterMap_cons_none (by simpa using h)

/-- The articles that are told without a subscriber are those that are missing. -/
theorem missingArticles_pairs {pairs : List (String × String)} (h : ∀ p ∈ pairs, p.1 ≠ "") :
    Step.missingArticles (pairs.map fun p => [p.1, p.2]) =
      (pairs.filter fun p => p.2 = "").map Prod.fst := by
  induction pairs with
  | nil => rfl
  | cons p r ih =>
    obtain ⟨hp, hr⟩ := List.forall_mem_cons.1 h
    rw [List.map_cons, missingArticles_cons, ih hr]
    by_cases hs : p.2 = ""
    · simp [hp, hs]
    · simp [hs]

/-- An output that tells rows, whatever its lines end with and wherever blank lines stand, is read
back as these rows; if the rows are articles with their subscribers, the missing articles are those
whose subscriber is empty. -/
theorem rows_read_back :
    (∀ rows output, (∀ row ∈ rows, IsRow row) → Writes rows output → parseRows output = rows) ∧
      ∀ (pairs : List (String × String)) (output : String),
        (∀ p ∈ pairs, p.1 ≠ "" ∧ IsCell p.1 ∧ IsCell p.2) →
        Writes (pairs.map fun p => [p.1, p.2]) output →
        Step.missingArticles (parseRows output) =
          (pairs.filter fun p => p.2 = "").map Prod.fst := by
  refine ⟨fun rows output hrows h => parseRows_of_writes h hrows, fun pairs output hpairs h => ?_⟩
  have hrows : ∀ row ∈ pairs.map fun p => [p.1, p.2], IsRow row := by
    intro row hrow
    obtain ⟨p, hp, rfl⟩ := List.mem_map.1 hrow
    obtain ⟨hne, harticle, hsubscriber⟩ := hpairs p hp
    exact ⟨by simp [harticle, hsubscriber], p.1, by simp, hne⟩
  rw [parseRows_of_writes h hrows]
  exact missingArticles_pairs fun p hp => (hpairs p hp).1

namespace Sample

/-- Articles with their subscribers; one that has none is told twice. -/
def pairs : List (String × String) :=
  [("Orders", "SQL02"), ("Customers", ""), ("Order lines", ""), ("Customers", "")]

/-- An output that tells them in lines of both endings, with blank lines around them. -/
def output : String :=
  "\r\nOrders\tSQL02\r\n\r\nCustomers\t\n \t\nOrder lines\t\r\nCustomers\t\n\n"

/-- The sample tells the pairs, with a blank line and both ends of lines in it. -/
theorem writes_output : Writes (pairs.map fun p => [p.1, p.2]) output := by
  have hlines : output = "" ++ "\r\n" ++ ("\t".intercalate ["Orders", "SQL02"] ++ "\r\n" ++
      ("" ++ "\r\n" ++ ("\t".intercalate ["Customers", ""] ++ "\n" ++ (" \t" ++ "\n" ++
      ("\t".intercalate ["Order lines", ""] ++ "\r\n" ++
      ("\t".intercalate ["Customers", ""] ++ "\n" ++ ("" ++ "\n" ++ ""))))))) := rfl
  rw [hlines]
  exact .blank rfl (by simp) (.inr rfl) <| .row (.inr rfl) <| .blank rfl (by simp) (.inr rfl) <|
    .row (.inl rfl) <| .blank rfl (by simp) (.inl rfl) <| .row (.inr rfl) <| .row (.inl rfl) <|
    .blank rfl (by simp) (.inl rfl) .done

end Sample

/-- The articles of the sample are read back, and those without a subscriber are missing. -/
theorem rows_read_back_sample :
    (∀ row ∈ Sample.pairs.map fun p => [p.1, p.2], IsRow row) ∧
      (∀ p ∈ Sample.pairs, p.1 ≠ "" ∧ IsCell p.1 ∧ IsCell p.2) ∧
      Writes (Sample.pairs.map fun p => [p.1, p.2]) Sample.output ∧
      parseRows Sample.output = [["Orders", "SQL02"], ["Customers", ""], ["Order lines", ""],
        ["Customers", ""]] ∧
      Step.missingArticles (parseRows Sample.output) =
        ["Customers", "Order lines", "Customers"] := by
  have hrows : ∀ row ∈ Sample.pairs.map fun p => [p.1, p.2], IsRow row := by decide
  have hpairs : ∀ p ∈ Sample.pairs, p.1 ≠ "" ∧ IsCell p.1 ∧ IsCell p.2 := by decide
  exact ⟨hrows, hpairs, Sample.writes_output,
    rows_read_back.1 _ _ hrows Sample.writes_output,
    rows_read_back.2 _ _ hpairs Sample.writes_output⟩

end Rollout.Sqlcmd
