/-!
# Scanning

A scan reads a front of a text and gives a value and the rest, or fails and reads nothing.
-/

namespace Rollout.Toml

/-- A way to read the front of a text. -/
abbrev Scan (α : Type) := StateT (List Char) Option α

namespace Scan

variable {α : Type}

/-- The scan that fails. -/
def fail : Scan α :=
  fun _ => none

/-- The next character, which stays unread. -/
def peek : Scan (Option Char) :=
  fun cs => some (cs.head?, cs)

/-- Reads one given character. -/
def char (c : Char) : Scan Unit
  | [] => none
  | d :: r => if d = c then some ((), r) else none

/-- Reads given characters. -/
def word : List Char → Scan Unit
  | [] => pure ()
  | c :: r => do
    char c
    word r

/-- Reads one character of a class. -/
def one (ok : Char → Bool) : Scan Char
  | [] => none
  | c :: r => if ok c then some (c, r) else none

/-- Reads the characters of a class at the front, of which there may be none. -/
def takeWhile (ok : Char → Bool) : Scan (List Char) :=
  fun cs => some (cs.span ok)

/-- Reads what a scan reads, or nothing if it fails. -/
def attempt (p : Scan α) : Scan (Option α) :=
  fun cs => match p cs with
    | some (a, r) => some (some a, r)
    | none => some (none, cs)

/-- The first of two scans that does not fail. -/
def or (p q : Scan α) : Scan α :=
  fun cs => match p cs with
    | some x => some x
    | none => q cs

/-- The value of a scan that must read all of a text. -/
def whole (p : Scan α) (cs : List Char) : Option α :=
  match p cs with
  | some (a, []) => some a
  | _ => none

/-- Reads with one scan again and again, as long as it does not fail and reads something. -/
def manyFrom (p : Scan α) (cs : List Char) : List α × List Char :=
  match p cs with
  | none => ([], cs)
  | some (a, r) =>
    if r.length < cs.length then
      let (as, rest) := manyFrom p r
      (a :: as, rest)
    else ([], cs)
termination_by cs.length

/-- Reads with one scan as often as it goes. -/
def many (p : Scan α) : Scan (List α) :=
  fun cs => some (manyFrom p cs)

/-- Reads items with a mark between any two. -/
def separated (mark : Char) (item : Scan α) : Scan (List α) := do
  match ← attempt item with
  | none => return []
  | some first =>
    let more ← many do
      char mark
      item
    return first :: more

/-- Reads the end of a line: a line feed, which a carriage return may precede. -/
def newline : Scan Unit
  | '\n' :: r => some ((), r)
  | '\r' :: '\n' :: r => some ((), r)
  | _ => none

/-- Reads the end of a line, or nothing at the end of the text. -/
def lineEnd : Scan Unit
  | [] => some ((), [])
  | cs => newline cs

/-- A space or a tab. -/
def isSpace (c : Char) : Bool :=
  c == ' ' || c == '\t'

/-- Reads spaces and tabs. -/
def spaces : Scan Unit := do
  let _ ← takeWhile isSpace

/-- The characters that may stand in a comment, and the ones beyond ASCII among them. -/
def isPrintable (c : Char) : Bool :=
  c == '\t' || (' ' ≤ c && c ≤ '~') || c.toNat ≥ 0x80

/-- Reads a comment up to the end of its line. -/
def comment : Scan Unit := do
  char '#'
  let _ ← takeWhile isPrintable

/-- Reads what may follow on a line: spaces, a comment and the end of the line. -/
def lineRest : Scan Unit := do
  spaces
  let _ ← attempt comment
  lineEnd

/-- Reads spaces, comments and ends of lines. -/
def trivia : Scan Unit := do
  let _ ← many (or (do let _ ← one isSpace) (or newline comment))

end Scan

end Rollout.Toml
