import Rollout.Listing
import Rollout.Path

/-!
# Folders

A folder with the texts of the files in it by their relative paths. A path is walked from the
folder part by part, as the system does it. Nothing is known to stand beside or above the folder
but the directories that hold it.
-/

namespace Rollout

/-- Why a path cannot be used. -/
inductive PathFault where
  | nul
  | missing
  | present
  | notDirectory
  | isDirectory
  | nameTooLong
  | other (message : String)
  deriving DecidableEq, Repr

/-- The wording of a fault, as the system words it. -/
def PathFault.message : PathFault → String
  | nul => "file name contained an unexpected NUL byte"
  | missing => "No such file or directory (os error 2)"
  | present => "File exists (os error 17)"
  | notDirectory => "Not a directory (os error 20)"
  | isDirectory => "Is a directory (os error 21)"
  | nameTooLong => "File name too long (os error 36)"
  | other message => message

/-- Where a walk has come to. -/
inductive Place where
  /-- A directory in the folder, or the folder itself, by the names that lead to it in reverse. -/
  | directory (trail : List String)
  /-- A file in the folder. -/
  | file (trail : List String)
  /-- A directory around the folder. -/
  | around
  /-- A name that nothing goes by, in a directory of the folder. -/
  | unused (trail : List String)
  /-- A name that nothing goes by, in a directory around the folder. -/
  | elsewhere
  deriving DecidableEq

/-- The texts of the files of a folder by their paths. -/
structure Folder where
  files : Listing String
  /-- Directories that were made, by the names that lead to them in reverse. -/
  made : List (List String)

namespace Folder

/-- The path of names that stand in reverse. -/
def pathOf (trail : List String) : String :=
  "/".intercalate trail.reverse

/-- Whether a path begins with the names of a directory and goes on below it. -/
def isBelow (directory path : List String) : Bool :=
  directory.length < path.length && path.take directory.length == directory

/-- Whether a directory holds something or was made. -/
def hasDirectory (d : Folder) (trail : List String) : Bool :=
  trail.isEmpty || d.made.contains trail ||
    d.files.names.any fun path => isBelow trail.reverse (Path.parts path)

/-- The place that names in reverse lead to. -/
def placeOf (d : Folder) (trail : List String) : Place :=
  if d.files.has (pathOf trail) then .file trail
  else if d.hasDirectory trail then .directory trail
  else .unused trail

/-- One part of a walk. -/
def walkPart (d : Folder) (place : Place) (part : String) : Except PathFault Place :=
  match place with
  | .file _ => .error .notDirectory
  | .unused _ => .error .missing
  | .elsewhere => .error .missing
  | .around =>
    if part = "" ∨ part = "." ∨ part = ".." then .ok .around
    else if part.utf8ByteSize > 255 then .error .nameTooLong
    else .ok .elsewhere
  | .directory trail =>
    if part = "" ∨ part = "." then .ok place
    else if part = ".." then
      match trail with
      | [] => .ok .around
      | _ :: r => .ok (.directory r)
    else if part.utf8ByteSize > 255 then .error .nameTooLong
    else .ok (d.placeOf (part :: trail))

/-- A walk along the parts of a path. -/
def walkParts (d : Folder) : Place → List String → Except PathFault Place
  | place, [] => .ok place
  | place, part :: r => match d.walkPart place part with
    | .error e => .error e
    | .ok place => d.walkParts place r

/-- The place that a path leads to. -/
def walk (d : Folder) (path : String) : Except PathFault Place :=
  if path.toList.contains '\x00' then .error .nul
  else if path.utf8ByteSize ≥ 4096 then .error .nameTooLong
  else if path.isEmpty then .error .missing
  else
    let parts := Path.parts path
    if Path.isAbsolute path then d.walkParts .around parts
    else d.walkParts (.directory []) parts

/-- The text of the file at a path. -/
def text? (d : Folder) (path : String) : Except PathFault String :=
  match d.walk path with
  | .error e => .error e
  | .ok (.file trail) => .ok ((d.files.get? (pathOf trail)).getD "")
  | .ok (.directory _) => .error .isDirectory
  | .ok .around => .error .isDirectory
  | .ok (.unused _) => .error .missing
  | .ok .elsewhere => .error .missing

/-- The text of the file at a path, or the message that tells why there is none. -/
def read (d : Folder) (path : String) : Except String String :=
  (d.text? path).mapError PathFault.message

/-- Whether a path leads to a file. -/
def isFile (d : Folder) (path : String) : Bool :=
  match d.walk path with
  | .ok (.file _) => true
  | _ => false

/-- Whether a path leads to a directory. -/
def isDirectory (d : Folder) (path : String) : Bool :=
  match d.walk path with
  | .ok (.directory _) => true
  | .ok .around => true
  | _ => false

/-- Whether a path leads to something. -/
def isPresent (d : Folder) (path : String) : Bool :=
  d.isFile path || d.isDirectory path

/-- Parts in reverse without the empty ones at the end of the path. -/
def dropEmpty (parts : List String) : List String :=
  parts.dropWhile (·.isEmpty)

/-- The folder with a directory made at a path, in a directory that is there. What is made around
the folder leaves no trace in it. -/
def makeDirectory (d : Folder) (path : String) : Except PathFault Folder :=
  match dropEmpty (Path.parts path).reverse with
  | [] => if path.isEmpty then .error .missing else .error .present
  | last :: before =>
    let upTo := if before.isEmpty then "." else "/".intercalate before.reverse
    match d.walk (if upTo.isEmpty then "/" else upTo) with
    | .error e => .error e
    | .ok place =>
      if last = "." ∨ last = ".." then
        match place with
        | .directory _ => .error .present
        | .around => .error .present
        | .file _ => .error .notDirectory
        | _ => .error .missing
      else match d.walkPart place last with
        | .error e => .error e
        | .ok (.unused trail) => .ok { d with made := trail :: d.made }
        | .ok .elsewhere => .ok d
        | .ok _ => .error .present

/-- The folder with a directory at a path, and with those that lead to it; `fuel` bounds the number
of parts of the path. -/
def makeDirectoriesFrom (d : Folder) : Nat → String → Except PathFault Folder
  | 0, _ => .ok d
  | fuel + 1, path =>
    if path.isEmpty then .ok d
    else match d.makeDirectory path with
      | .ok d => .ok d
      | .error .missing =>
        match Path.parent? path with
        | none => .error .missing
        | some parent => match d.makeDirectoriesFrom fuel parent with
          | .error e => .error e
          | .ok d => match d.makeDirectory path with
            | .ok d => .ok d
            | .error e => if d.isDirectory path then .ok d else .error e
      | .error e => if d.isDirectory path then .ok d else .error e

/-- The folder with a directory at a path, and with those that lead to it. -/
def makeDirectories (d : Folder) (path : String) : Except PathFault Folder :=
  d.makeDirectoriesFrom ((Path.parts path).length + 1) path

/-- The folder with a text written to the file at a path. What is written around the folder leaves
no trace in it. -/
def write (d : Folder) (path text : String) : Except PathFault Folder :=
  match d.walk path with
  | .error e => .error e
  | .ok (.file trail) => .ok { d with files := d.files.put (pathOf trail) text }
  | .ok (.unused trail) => .ok { d with files := d.files.put (pathOf trail) text }
  | .ok .elsewhere => .ok d
  | .ok (.directory _) => .error .isDirectory
  | .ok .around => .error .isDirectory

end Folder

end Rollout
