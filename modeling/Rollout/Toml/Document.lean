import Rollout.Text.Cut
import Rollout.Toml.Value

/-!
# TOML documents

A document is read line by line. A header opens a section, and the assignments that follow belong
to it, up to the next header. A table is opened by one header only; a header in double brackets
opens one more table of several.
-/

namespace Rollout.Toml

open Rollout.Toml.Scan

/-- A line of a document. -/
inductive Line where
  | blank
  | assignment (path : List String) (name : String) (value : Node)
  | header (path : List String) (name : String)
  | anotherHeader (path : List String) (name : String)

/-- Reads a header in single or double brackets. -/
def headerLine : Scan Line := do
  char '['
  match ← attempt (char '[') with
  | none =>
    let (path, name) ← key
    char ']'
    lineRest
    return .header path name
  | some _ =>
    let (path, name) ← key
    word [']', ']']
    lineRest
    return .anotherHeader path name

/-- Reads an assignment. -/
def assignmentLine : Scan Line := do
  let (path, name) ← key
  char '='
  spaces
  let node ← value (levelLimit - 1)
  lineRest
  return .assignment path name node

/-- Reads a line. -/
def line : Scan Line := do
  spaces
  match ← peek with
  | none => fail
  | some c =>
    if c = '\n' ∨ c = '\r' then
      newline
      return .blank
    else if c = '#' then
      lineRest
      return .blank
    else if c = '[' then headerLine
    else assignmentLine

/-- The lines of a document, which may begin with a byte order mark. -/
def linesOf (cs : List Char) : Option (List Line) :=
  whole (do
    let lines ← many line
    spaces
    return lines) (Text.withoutOrderMark cs)

/-- The header under which assignments stand. -/
inductive Heading where
  | root
  | header (path : List String) (name : String)
  | anotherHeader (path : List String) (name : String)

/-- A document in the course of being read: the closed sections, the heading of the open one, and
its entries. -/
structure Reading where
  closed : Entries
  heading : Heading
  entries : Entries

namespace Reading

/-- The entries of a document up to the open section and with it. -/
def close (r : Reading) : Option Entries :=
  match r.heading with
  | .root => some r.entries
  | .header path name =>
    changeAt (fun entries =>
      if (lookPair name entries).isSome then none
      else some (entries ++ [(name, .table .header r.entries)])) path r.closed
  | .anotherHeader path name =>
    changeAt (fun entries => match lookPair name entries with
      | none => some (entries ++ [(name, .tables [.table .header r.entries])])
      | some (.tables items) =>
        some (putPair name (.tables (items ++ [.table .header r.entries])) entries)
      | some _ => none) path r.closed

/-- What stands under a name inside the table that a path leads to: nothing if the path leads to
no table as yet, and no answer if it cannot lead to one. -/
def lookAt (name : String) : List String → Entries → Option (Option Node)
  | [], entries => some (lookPair name entries)
  | part :: path, entries =>
    match lookPair part entries with
    | none => some none
    | some (.table .inline _) => none
    | some (.table _ inner) => lookAt name path inner
    | some (.tables items) => match items.getLast? with
      | some (.table _ inner) => lookAt name path inner
      | _ => none
    | some _ => none

/-- Opens the section of a header. A table that deeper headers implied keeps its entries, and takes
a new place behind the others. -/
def openTable (closed : Entries) (path : List String) (name : String) : Option Reading :=
  match lookAt name path closed with
  | none => none
  | some none => some ⟨closed, .header path name, []⟩
  | some (some (.table .implied inner)) =>
    (changeAt (fun entries => some (entries.filter (·.1 ≠ name))) path closed).map fun closed =>
      ⟨closed, .header path name, inner⟩
  | some (some _) => none

/-- Opens the section of a header in double brackets. -/
def openAnother (closed : Entries) (path : List String) (name : String) : Option Reading :=
  match lookAt name path closed with
  | none => none
  | some none => some ⟨closed, .anotherHeader path name, []⟩
  | some (some (.tables _)) => some ⟨closed, .anotherHeader path name, []⟩
  | some (some _) => none

/-- Reads one more line. -/
def read (r : Reading) : Line → Option Reading
  | .blank => some r
  | .assignment path name node =>
    (insertDotted name node path r.entries).map fun entries => { r with entries }
  | .header path name => do
    openTable (← r.close) path name
  | .anotherHeader path name => do
    openAnother (← r.close) path name

end Reading

/-- The entries that a document holds, if it is well formed. -/
def entriesOf (text : String) : Option Entries := do
  let lines ← linesOf text.toList
  let reading ← lines.foldlM Reading.read ⟨[], .root, []⟩
  reading.close

end Rollout.Toml
