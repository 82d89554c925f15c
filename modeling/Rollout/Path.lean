import Rollout.Text.Cut

/-!
# Paths

Paths are texts whose parts are separated by slashes. They are joined, split and brought to normal
form by their text alone; no file is looked at.
-/

namespace Rollout.Path

open Rollout.Text (fields)

/-- The parts of a path that stand between its slashes. -/
def parts (path : String) : List String :=
  (fields '/' path.toList).map String.ofList

/-- A path is absolute when it begins with a slash. -/
def isAbsolute (path : String) : Bool :=
  path.toList.head? = some '/'

/-- A path is rooted when it is absolute, begins with two backslashes, or begins with a drive
letter, a colon and a separator of either kind. -/
def isRooted (path : String) : Bool :=
  match path.toList with
  | '/' :: _ => true
  | '\\' :: '\\' :: _ => true
  | c :: ':' :: s :: _ => c.isAlpha && (s == '\\' || s == '/')
  | _ => false

/-- One path under another: an absolute path stands for itself, and a slash is put between the two
unless the first one is empty or ends in a slash. -/
def join (base path : String) : String :=
  if isAbsolute path || base.isEmpty then path
  else if base.toList.getLast? = some '/' then base ++ path
  else base ++ "/" ++ path

/-- One more part read onto the parts already kept, which stand in reverse: an empty part and `.`
are dropped, and `..` takes back a name, is dropped at the root and is kept otherwise. -/
def readPart (absolute : Bool) (kept : List String) (part : String) : List String :=
  if part = "" ∨ part = "." then kept
  else if part = ".." then
    match kept with
    | [] => if absolute then [] else [".."]
    | last :: before => if last = ".." then ".." :: last :: before else before
  else part :: kept

/-- The parts of a path in normal form. -/
def normalParts (path : String) : List String :=
  ((parts path).foldl (readPart (isAbsolute path)) []).reverse

/-- The text of a path with the given parts; no parts at all is the root or the current
directory. -/
def ofParts (absolute : Bool) (kept : List String) : String :=
  if absolute then "/" ++ "/".intercalate kept
  else if kept.isEmpty then "." else "/".intercalate kept

/-- The normal form of a path, with no empty parts, no `.` and no `..` after a name. -/
def normalize (path : String) : String :=
  ofParts (isAbsolute path) (normalParts path)

/-- A reference to a file: a rooted one is kept as written, any other is taken from the base path
and brought to normal form. -/
def resolve (base path : String) : String :=
  if isRooted path then path else normalize (join base path)

/-- Parts in reverse without the empty ones and the `.` ones at the end of the path; the part at
the very front of the path stays. -/
def dropIdle : List String → List String
  | part :: next :: r => if part = "" ∨ part = "." then dropIdle (next :: r) else part :: next :: r
  | l => l

/-- The path that holds the last part of a path; the root and the empty path have none. -/
def parent? (path : String) : Option String :=
  match dropIdle (parts path).reverse with
  | [] => none
  | [only] => if only = "" then none else some ""
  | _ :: before => match dropIdle before with
    | [""] => some "/"
    | kept => some ("/".intercalate kept.reverse)

end Rollout.Path
