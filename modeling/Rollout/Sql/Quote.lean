/-!
# Quoted T-SQL text

A name is written in brackets with every closing bracket doubled; a text is written as a national
string, between single quotes with every single quote doubled.
-/

namespace Rollout.Sql

/-- Characters with every occurrence of `mark` written twice. -/
def doubled (mark : Char) : List Char → List Char
  | [] => []
  | c :: r => if c = mark then c :: c :: doubled mark r else c :: doubled mark r

/-- A name in brackets. -/
def ident (name : String) : String :=
  "[" ++ String.ofList (doubled ']' name.toList) ++ "]"

/-- A text as a national string. -/
def literal (text : String) : String :=
  "N'" ++ String.ofList (doubled '\'' text.toList) ++ "'"

/-- Reads up to the first `mark` that is not doubled: the text it closes and what follows. -/
def undouble (mark : Char) : List Char → Option (List Char × List Char)
  | [] => none
  | [c] => if c = mark then some ([], []) else none
  | c :: d :: r =>
    if c = mark then
      if d = mark then (undouble mark r).map fun (t, rest) => (mark :: t, rest)
      else some ([], d :: r)
    else (undouble mark (d :: r)).map fun (t, rest) => (c :: t, rest)

/-- Named arguments that follow the first one of a procedure call; absent ones are left out. -/
def furtherArgs : List (String × Option String) → String
  | [] => ""
  | (name, some value) :: r => ", @" ++ name ++ " = " ++ value ++ furtherArgs r
  | (_, none) :: r => furtherArgs r

end Rollout.Sql
