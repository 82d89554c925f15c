import Rollout.Listing

/-!
# Nodes

What TOML text comes to: a tree of values and tables. A table remembers how it came to be, because
that tells how it may be added to.
-/

namespace Rollout.Toml

/-- How a table came to be. -/
inductive Form where
  /-- By a header of its own. -/
  | header
  /-- By the header of a table inside it. -/
  | implied
  /-- By a key with points in it. -/
  | dotted
  /-- Between braces. -/
  | inline
  deriving DecidableEq, Repr

/-- A value or a table. Of numbers with a fraction and of times only the kind is kept. -/
inductive Node where
  | string (value : String)
  | integer (value : Int)
  | float
  | boolean (value : Bool)
  | time
  | list (items : List Node)
  | table (form : Form) (entries : List (String × Node))
  /-- Tables that share a header in double brackets. -/
  | tables (items : List Node)
  deriving Inhabited

/-- Names with what stands under them, in order. -/
abbrev Entries := List (String × Node)

/-- The entries with a node put under a new name inside the tables that a path of names leads to. A
path leads through tables that keys with points made, which it makes where there are none; on the
way to its last table, but not as the last one, it may lead through a table that a header implied
and through the last of several tables. -/
def insertDotted (name : String) (node : Node) : List String → Entries → Option Entries
  | [], entries =>
    if (lookPair name entries).isSome then none else some (entries ++ [(name, node)])
  | part :: path, entries =>
    match lookPair part entries with
    | none => (insertDotted name node path []).map fun inner =>
      entries ++ [(part, .table .dotted inner)]
    | some (.table .dotted inner) => (insertDotted name node path inner).map fun inner =>
      putPair part (.table .dotted inner) entries
    | some (.table .implied inner) =>
      if path.isEmpty then none
      else (insertDotted name node path inner).map fun inner =>
        putPair part (.table .implied inner) entries
    | some (.tables items) =>
      match path.isEmpty, items.getLast? with
      | false, some (.table form inner) => (insertDotted name node path inner).map fun inner =>
        putPair part (.tables (items.dropLast ++ [.table form inner])) entries
      | _, _ => none
    | some _ => none

/-- The entries changed inside the table that a path of names leads to. The path leads through
tables of every kind but those between braces, and through the last of several tables; where there
is no table the header implies one. -/
def changeAt (change : Entries → Option Entries) : List String → Entries → Option Entries
  | [], entries => change entries
  | part :: path, entries =>
    match lookPair part entries with
    | none => (changeAt change path []).map fun inner =>
      entries ++ [(part, .table .implied inner)]
    | some (.table .inline _) => none
    | some (.table form inner) => (changeAt change path inner).map fun inner =>
      putPair part (.table form inner) entries
    | some (.tables items) =>
      match items.getLast? with
      | some (.table form inner) => (changeAt change path inner).map fun inner =>
        putPair part (.tables (items.dropLast ++ [.table form inner])) entries
      | _ => none
    | some _ => none

end Rollout.Toml
