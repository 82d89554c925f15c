import Rollout.Text.Numeral

/-!
# JSON text

JSON values and two ways to write them: compactly, with no blank characters and the members of an
object in the order given, and laid out over lines, with two blanks a level. Inside a string only
the quote, the backslash and the control characters below U+0020 are escaped.
-/

namespace Rollout

/-- A JSON value. -/
inductive Json where
  | null
  | flag (value : Bool)
  | number (value : Int)
  | text (value : String)
  | list (items : List Json)
  | object (members : List (String × Json))
  deriving Inhabited

namespace Json

/-- A text that may be absent, which is null. -/
def ofText? : Option String → Json
  | some s => text s
  | none => null

/-- A number that may be absent, which is null. -/
def ofNumber? : Option Int → Json
  | some n => number n
  | none => null

/-- A character as it stands inside a string. -/
def escape (c : Char) : List Char :=
  match c with
  | '"' => ['\\', '"']
  | '\\' => ['\\', '\\']
  | '\x08' => ['\\', 'b']
  | '\t' => ['\\', 't']
  | '\n' => ['\\', 'n']
  | '\x0c' => ['\\', 'f']
  | '\r' => ['\\', 'r']
  | c => if c.toNat < 0x20 then '\\' :: 'u' :: Text.hex 4 c.toNat else [c]

/-- A text as a JSON string. -/
def quoted (s : String) : List Char :=
  '"' :: s.toList.flatMap escape ++ ['"']

/-- Texts with a separator between them. -/
def separated (mark : List Char) : List (List Char) → List Char
  | [] => []
  | [x] => x
  | x :: y :: r => x ++ mark ++ separated mark (y :: r)

/-- A number in decimal. -/
def decimal (n : Int) : List Char :=
  (toString n).toList

mutual

/-- A value in compact form. -/
def compact : Json → List Char
  | null => ['n', 'u', 'l', 'l']
  | flag true => ['t', 'r', 'u', 'e']
  | flag false => ['f', 'a', 'l', 's', 'e']
  | number n => decimal n
  | text s => quoted s
  | list items => '[' :: separated [','] (compactItems items) ++ [']']
  | object members => '\x7b' :: separated [','] (compactMembers members) ++ ['\x7d']

/-- The items of a list in compact form. -/
def compactItems : List Json → List (List Char)
  | [] => []
  | j :: r => compact j :: compactItems r

/-- The members of an object in compact form. -/
def compactMembers : List (String × Json) → List (List Char)
  | [] => []
  | (name, j) :: r => (quoted name ++ ':' :: compact j) :: compactMembers r

end

/-- The front of a line at a level. -/
def indent (level : Nat) : List Char :=
  '\n' :: List.replicate (2 * level) ' '

/-- Written items between brackets: each on a line of its own, or nothing between the brackets. -/
def block (level : Nat) (left right : Char) (items : List (List Char)) : List Char :=
  if items.isEmpty then [left, right]
  else left :: indent (level + 1) ++ separated (',' :: indent (level + 1)) items ++
    indent level ++ [right]

mutual

/-- A value laid out over lines, its first character standing on a line of some level. -/
def spread (level : Nat) : Json → List Char
  | list items => block level '[' ']' (spreadItems (level + 1) items)
  | object members => block level '\x7b' '\x7d' (spreadMembers (level + 1) members)
  | null => compact null
  | flag b => compact (flag b)
  | number n => compact (number n)
  | text s => compact (text s)

/-- The items of a list laid out over lines. -/
def spreadItems (level : Nat) : List Json → List (List Char)
  | [] => []
  | j :: r => spread level j :: spreadItems level r

/-- The members of an object laid out over lines. -/
def spreadMembers (level : Nat) : List (String × Json) → List (List Char)
  | [] => []
  | (name, j) :: r => (quoted name ++ ':' :: ' ' :: spread level j) :: spreadMembers level r

end

/-- Members in the order of their names by code point. -/
def inOrder (members : List (String × Json)) : List (String × Json) :=
  members.mergeSort fun a b => decide (a.1 ≤ b.1)

mutual

/-- A value with the members of every object in the order of their names by code point. -/
def sorted : Json → Json
  | list items => list (sortedItems items)
  | object members => object (inOrder (sortedMembers members))
  | null => null
  | flag b => flag b
  | number n => number n
  | text s => text s

/-- The items of a list, each sorted. -/
def sortedItems : List Json → List Json
  | [] => []
  | j :: r => sorted j :: sortedItems r

/-- The members of an object, each value sorted. -/
def sortedMembers : List (String × Json) → List (String × Json)
  | [] => []
  | (name, j) :: r => (name, sorted j) :: sortedMembers r

end

end Json

end Rollout
