/-!
# Cursors

A cursor is a place in a text with what follows it and its index, line and column. Lines end at
line feeds, carriage returns, both in this order, next-line characters and the two separators of
Unicode. An operation that may fail to fit the text yields nothing.
-/

namespace Rollout.Yaml

/-- A place in a text; `size` is the length of the whole text, which bounds every loop. -/
structure Cursor where
  rest : List Char
  size : Nat
  index : Nat
  line : Nat
  column : Nat

/-- The characters that end a line. -/
def isBreak (c : Char) : Bool :=
  c == '\n' || c == '\r' || c == '\u0085' || c == '\u2028' || c == '\u2029'

/-- Blanks and tabs. -/
def isSpace (c : Char) : Bool :=
  c == ' ' || c == '\t'

/-- What separates words: blanks, tabs and ends of lines. -/
def isGap (c : Char) : Bool :=
  isSpace c || isBreak c

/-- What names of anchors, handles and directives are made of. -/
def isNameChar (c : Char) : Bool :=
  c.isAlphanum || c == '_' || c == '-'

namespace Cursor

/-- The front of a text. -/
def start (cs : List Char) : Cursor :=
  ⟨cs, cs.length, 0, 0, 0⟩

/-- Whether the text ends here. -/
def atEnd (c : Cursor) : Bool :=
  c.rest.isEmpty

/-- Whether a given character stands at some distance. -/
def isAt (c : Cursor) (n : Nat) (x : Char) : Bool :=
  c.rest[n]? == some x

/-- Whether a character with a property stands here. -/
def has (c : Cursor) (p : Char → Bool) : Bool :=
  c.rest.head?.any p

/-- Whether a gap or the end of the text is at some distance. -/
def gapAt (c : Cursor) (n : Nat) : Bool :=
  match c.rest[n]? with
  | some x => isGap x
  | none => true

/-- Whether a line or the text ends here. -/
def atLineEnd (c : Cursor) : Bool :=
  match c.rest with
  | x :: _ => isBreak x
  | [] => true

/-- The cursor behind some characters of the same line. -/
def skip (c : Cursor) (n : Nat) : Cursor :=
  ⟨c.rest.drop n, c.size, c.index + n, c.line, c.column + n⟩

/-- The characters of this line with a property, and the cursor behind them; the property holds
of no end of a line. -/
def take (c : Cursor) (p : Char → Bool) : List Char × Cursor :=
  let word := c.rest.takeWhile p
  (word, c.skip word.length)

/-- The cursor behind the characters with a property. -/
def skipWhile (c : Cursor) (p : Char → Bool) : Cursor :=
  (c.take p).2

/-- The end of a line here, and the cursor at the front of the next line. Every end of a line
counts as a line feed but the two separators of Unicode, which stand for themselves. -/
def lineBreak? (c : Cursor) : Option (Char × Cursor) :=
  match c.rest with
  | '\r' :: '\n' :: r => some ('\n', ⟨r, c.size, c.index + 2, c.line + 1, 0⟩)
  | x :: r =>
    if isBreak x then
      let mark := if x == '\u2028' || x == '\u2029' then x else '\n'
      some (mark, ⟨r, c.size, c.index + 1, c.line + 1, 0⟩)
    else none
  | [] => none

/-- The cursor behind the end of a line, if one is here. -/
def skipBreak (c : Cursor) : Cursor :=
  match c.lineBreak? with
  | some (_, c') => c'
  | none => c

/-- The cursor behind spaces and a comment, at the end of the line; nothing if something else is
in between. -/
def lineEnd? (c : Cursor) : Option Cursor :=
  let c := c.skipWhile isSpace
  let c := if c.isAt 0 '#' then c.skipWhile (!isBreak ·) else c
  if c.atLineEnd then some c else none

/-- Whether a line begins here with three marks and a gap. -/
def documentMark (c : Cursor) (mark : Char) : Bool :=
  c.column == 0 && c.isAt 0 mark && c.isAt 1 mark && c.isAt 2 mark && c.gapAt 3

/-- Whether a line begins here with the mark of the start or the end of a document. -/
def atDocumentMark (c : Cursor) : Bool :=
  c.documentMark '-' || c.documentMark '.'

end Cursor

end Rollout.Yaml
