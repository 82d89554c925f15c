import Rollout.Text.Quoted
import Rollout.Yaml.Scalar

/-!
# Values of YAML

Values without a schema: scalars with their types, lists, mappings and tagged values. A value has a
text of its own: that of a scalar is what it stands for, and any other value spells out its
structure.
-/

namespace Rollout.Yaml

/-- A value. -/
inductive Value where
  | null
  | flag (value : Bool)
  | integer (value : Int)
  | float (value : Floating)
  | text (value : String)
  | list (items : List Value)
  | mapping (entries : List (Value × Value))
  | tagged (tag : String) (value : Value)
  deriving Inhabited

namespace Value

/-- The value of a scalar. -/
def ofScalar : Scalar → Value
  | .null => null
  | .flag b => flag b
  | .natural n => integer n
  | .integer n => integer n
  | .float f => float f
  | .text s => text s

/-- A tag without an exclamation mark in front, unless there is nothing else. -/
def bareTag (tag : String) : String :=
  match tag.toList with
  | '!' :: c :: r => String.ofList (c :: r)
  | _ => tag

mutual

/-- Whether two values are the same as keys of a mapping. The order of entries does not count. -/
def same : Value → Value → Bool
  | null, null => true
  | flag a, flag b => a == b
  | integer a, integer b => a == b
  | float a, float b => a.same b
  | text a, text b => a == b
  | list a, list b => sameItems a b
  | mapping a, mapping b => a.length == b.length && sameEntries a b
  | tagged s a, tagged t b => bareTag s == bareTag t && same a b
  | _, _ => false

/-- Whether two lists hold the same values. -/
def sameItems : List Value → List Value → Bool
  | [], [] => true
  | a :: r, b :: s => same a b && sameItems r s
  | _, _ => false

/-- Whether every entry is the same as some entry of another mapping. -/
def sameEntries : List (Value × Value) → List (Value × Value) → Bool
  | [], _ => true
  | (k, v) :: r, es => es.any (fun e => same k e.1 && same v e.2) && sameEntries r es

end

/-- Texts with commas between them. -/
def listed : List (List Char) → List Char
  | [] => []
  | [x] => x
  | x :: y :: r => x ++ [',', ' '] ++ listed (y :: r)

/-- The text of a boolean. -/
def flagText (b : Bool) : String :=
  if b then "true" else "false"

/-- A scalar key as it is spelled out: without its type. -/
def keyText? : Value → Option (List Char)
  | flag b => some (flagText b).toList
  | integer n => some (toString n).toList
  | float f => some f.text.toList
  | text s => some (Text.shown s)
  | _ => none

mutual

/-- A value with its structure spelled out. -/
def spelled : Value → List Char
  | null => "Null".toList
  | flag b => "Bool(".toList ++ (flagText b).toList ++ [')']
  | integer n => "Number(".toList ++ (toString n).toList ++ [')']
  | float f => "Number(".toList ++ f.text.toList ++ [')']
  | text s => "String(".toList ++ Text.shown s ++ [')']
  | list items => "Sequence [".toList ++ listed (spelledItems items) ++ [']']
  | mapping entries => "Mapping \x7b".toList ++ listed (spelledEntries entries) ++ ['\x7d']
  | tagged tag v =>
    "TaggedValue \x7b tag: !".toList ++ (bareTag tag).toList ++ ", value: ".toList ++ spelled v ++
      " \x7d".toList

/-- The items of a list spelled out. -/
def spelledItems : List Value → List (List Char)
  | [] => []
  | v :: r => spelled v :: spelledItems r

/-- The entries of a mapping spelled out. -/
def spelledEntries : List (Value × Value) → List (List Char)
  | [] => []
  | (k, v) :: r =>
    ((keyText? k).getD (spelled k) ++ [':', ' '] ++ spelled v) :: spelledEntries r

end

/-- The text that a value stands for: null is empty, scalars are written plainly, and any other
value is spelled out. -/
def toText : Value → String
  | null => ""
  | flag b => flagText b
  | integer n => toString n
  | float f => f.text
  | text s => s
  | v => String.ofList (spelled v)

end Value

end Rollout.Yaml
