import Rollout.Toml.Node
import Rollout.Toml.Number
import Rollout.Toml.Quoted

/-!
# Keys and values

A key is a word or a string of one line, or several of them with points between. A value is a
string, a number, a truth value, a time, a list between brackets or a table between braces; lists
and tables are nested to a limited depth.
-/

namespace Rollout.Toml

open Rollout.Toml.Scan

/-- The characters of a word that stands as a key. -/
def isKeyChar (c : Char) : Bool :=
  c.isAlphanum || c == '_' || c == '-'

/-- Reads a word that stands as a key. -/
def bareKey : Scan String := do
  let first ← one isKeyChar
  let more ← takeWhile isKeyChar
  return String.ofList (first :: more)

/-- Reads one name of a key, and the spaces around it. -/
def keyPart : Scan String := do
  spaces
  let name ← or quotedLine bareKey
  spaces
  return name

/-- The number of levels that is too many for keys, lists and tables. -/
def levelLimit : Nat :=
  80

/-- Reads a key: the names in front of its last one, and that. -/
def key : Scan (List String × String) := do
  let names ← separated '.' keyPart
  match names.getLast? with
  | some last => if names.length < levelLimit then return (names.dropLast, last) else fail
  | none => fail

/-- Reads a value that holds no others. -/
def plain : Scan Node := do
  match ← peek with
  | none => fail
  | some c =>
    if c = '"' ∨ c = '\'' then return .string (← quoted)
    else if c = 't' then
      word ['t', 'r', 'u', 'e']
      return .boolean true
    else if c = 'f' then
      word ['f', 'a', 'l', 's', 'e']
      return .boolean false
    else
      or (do time; return .time) (or (do fraction; return .float) (return .integer (← integer)))

/-- Reads the items of a list, with a comma behind the last one or none. -/
def listItems (item : Scan Node) : Scan Node := do
  char '['
  let items ← separated ',' do
    trivia
    let node ← item
    trivia
    return node
  if !items.isEmpty then let _ ← attempt (char ',')
  trivia
  char ']'
  return .list items

/-- Reads a table between braces, which stands on one line. -/
def inlineTable (item : Scan Node) : Scan Node := do
  char '\x7b'
  let pairs ← separated ',' do
    let (path, name) ← key
    char '='
    spaces
    let node ← item
    spaces
    return (path, name, node)
  spaces
  char '\x7d'
  match pairs.foldlM (fun entries (path, name, node) => insertDotted name node path entries) [] with
  | some entries => return .table .inline entries
  | none => fail

/-- Reads a value with so many levels below it at most. -/
def value : Nat → Scan Node
  | 0 => plain
  | n + 1 => do
    match ← peek with
    | some '[' => listItems (value n)
    | some '\x7b' => inlineTable (value n)
    | _ => plain

end Rollout.Toml
