import Rollout.Text.Numeral
import Rollout.Yaml.Cursor

/-!
# Lexemes of YAML

The pieces of a YAML text whose extent does not depend on what is around them, but for the
indentation and for whether they stand inside brackets: plain, quoted and block scalars, anchors,
tags and directives. Each reader takes the cursor in front of its piece and yields the piece and
the cursor behind it, or nothing if the text is at fault.
-/

namespace Rollout.Yaml

open Rollout.Text (digitOf? digits?)

/-- What stands between two words of a scalar: the spaces if they are on one line, or else the
ends of lines, the first one apart. -/
structure Gap where
  broken : Bool
  spaces : List Char
  first : List Char
  more : List Char

namespace Gap

/-- No gap. -/
def none : Gap :=
  ⟨false, [], [], []⟩

/-- A gap over an end of a line that does not count. -/
def folded : Gap :=
  ⟨true, [], [], []⟩

/-- The gap with one more space. -/
def space (g : Gap) (c : Char) : Gap :=
  if g.broken then g else { g with spaces := g.spaces ++ [c] }

/-- The gap with one more end of a line. -/
def lineBreak (g : Gap) (c : Char) : Gap :=
  if g.broken then { g with more := g.more ++ [c] } else ⟨true, [], [c], []⟩

/-- The text that a gap stands for: one end of a line is a space, and of more than one the first
is dropped, unless the first one is a separator. -/
def text (g : Gap) : List Char :=
  if !g.broken then g.spaces
  else if g.first = ['\n'] then (if g.more.isEmpty then [' '] else g.more)
  else g.first ++ g.more

end Gap

/-- Reads the gap at a cursor onto a gap already read. Where a tab stands in a new line in front of
the column `tabsFrom`, the text is at fault. -/
def readGap (tabsFrom : Nat) : Nat → Gap → Cursor → Option (Gap × Cursor)
  | 0, g, c => some (g, c)
  | steps + 1, g, c =>
    match c.rest with
    | [] => some (g, c)
    | x :: _ =>
      if isSpace x then
        if g.broken && x == '\t' && c.column < tabsFrom then Option.none
        else readGap tabsFrom steps (g.space x) (c.skip 1)
      else match c.lineBreak? with
        | some (mark, c') => readGap tabsFrom steps (g.lineBreak mark) c'
        | Option.none => some (g, c)

/-- The characters that end a plain scalar inside brackets. -/
def isBracketMark (c : Char) : Bool :=
  c == ',' || c == '[' || c == ']' || c == '\x7b' || c == '\x7d'

/-- The number of characters of the plain word at the front of a text. Inside brackets a colon in
front of a bracket, a comma or a question mark is a fault. -/
def plainWord? (inBrackets : Bool) : List Char → Option Nat
  | [] => some 0
  | x :: r =>
    if isGap x then some 0
    else if inBrackets && x == ':' && r.head?.any (fun y => isBracketMark y || y == '?') then none
    else if x == ':' && (r.head?.all isGap) then some 0
    else if inBrackets && isBracketMark x then some 0
    else (plainWord? inBrackets r).map (· + 1)

/-- The words of a plain scalar behind a gap, whose further lines are indented by `level` at least:
their text, whether the scalar ends in a new line, and the cursor behind it. -/
def plainWords? (inBrackets : Bool) (level : Nat) :
    Nat → Gap → Cursor → Option (List Char × Bool × Cursor)
  | 0, g, c => some ([], g.broken, c)
  | steps + 1, g, c =>
    if c.atDocumentMark || c.isAt 0 '#' then some ([], g.broken, c)
    else match plainWord? inBrackets c.rest with
      | none => none
      | some n =>
        let (word, g) := if n = 0 then ([], g) else (g.text ++ c.rest.take n, Gap.none)
        let c := c.skip n
        if c.has isGap then
          match readGap level (c.size + 1) g c with
          | none => none
          | some (g, c) =>
            if !inBrackets && c.column < level then some (word, g.broken, c)
            else (plainWords? inBrackets level steps g c).map fun (text, newLine, c) =>
              (word ++ text, newLine, c)
        else some (word, g.broken, c)

/-- The plain scalar at a cursor. -/
def plainScalar? (inBrackets : Bool) (level : Nat) (c : Cursor) :
    Option (List Char × Bool × Cursor) :=
  plainWords? inBrackets level (c.size + 1) Gap.none c

/-- The number that a given number of hexadecimal digits at the front of a text write, and the
rest. -/
def hexDigits? (n : Nat) (cs : List Char) : Option (Nat × List Char) :=
  let ds := cs.take n
  if ds.length < n then none else (digits? 16 ds).map fun v => (v, cs.drop n)

/-- The character behind a number of an escape, unless it is a surrogate or too great. -/
def codePoint? (v : Nat) : Option Char :=
  if v.isValidChar then some (Char.ofNat v) else none

/-- The character that a letter behind a backslash stands for. -/
def escaped? : Char → Option Char
  | '0' => some '\x00'
  | 'a' => some '\x07'
  | 'b' => some '\x08'
  | 't' => some '\t'
  | '\t' => some '\t'
  | 'n' => some '\n'
  | 'v' => some '\x0b'
  | 'f' => some '\x0c'
  | 'r' => some '\r'
  | 'e' => some '\x1b'
  | ' ' => some ' '
  | '"' => some '"'
  | '/' => some '/'
  | '\\' => some '\\'
  | 'N' => some '\u0085'
  | '_' => some '\u00a0'
  | 'L' => some '\u2028'
  | 'P' => some '\u2029'
  | _ => none

/-- The number of digits behind a letter that begins a numeric escape. -/
def escapeWidth? : Char → Option Nat
  | 'x' => some 2
  | 'u' => some 4
  | 'U' => some 8
  | _ => none

/-- One more character in front of the word of a quoted scalar. -/
def putFront (x : Char) : List Char × Bool × Cursor → List Char × Bool × Cursor
  | (word, folded, c) => (x :: word, folded, c)

/-- A word of a quoted scalar: its text, whether an escaped end of a line follows, and the cursor
behind it. -/
def quotedWord? (single : Bool) : Nat → Cursor → Option (List Char × Bool × Cursor)
  | 0, c => some ([], false, c)
  | steps + 1, c =>
    match c.rest with
    | [] => some ([], false, c)
    | x :: r =>
      if isGap x then some ([], false, c)
      else if single then
        if x == '\'' then
          if r.head? = some '\'' then (quotedWord? single steps (c.skip 2)).map (putFront '\'')
          else some ([], false, c)
        else (quotedWord? single steps (c.skip 1)).map (putFront x)
      else if x == '"' then some ([], false, c)
      else if x == '\\' then
        match r with
        | [] => none
        | y :: r' =>
          if isBreak y then some ([], true, (c.skip 1).skipBreak)
          else match escapeWidth? y with
            | some width =>
              match (hexDigits? width r').bind fun (v, _) => codePoint? v with
              | some z => (quotedWord? single steps (c.skip (2 + width))).map (putFront z)
              | none => none
            | none => match escaped? y with
              | some z => (quotedWord? single steps (c.skip 2)).map (putFront z)
              | none => none
      else (quotedWord? single steps (c.skip 1)).map (putFront x)

/-- The lines of a quoted scalar, up to the closing quote. -/
def quotedLines? (single : Bool) : Nat → Cursor → Option (List Char × Cursor)
  | 0, _ => none
  | steps + 1, c =>
    if c.atDocumentMark || c.atEnd then none
    else match quotedWord? single (c.size + 1) c with
      | none => none
      | some (word, folded, c) =>
        if c.isAt 0 (if single then '\'' else '"') then some (word, c.skip 1)
        else match readGap 0 (c.size + 1) (if folded then Gap.folded else Gap.none) c with
          | none => none
          | some (g, c) => (quotedLines? single steps c).map fun (text, c) =>
            (word ++ g.text ++ text, c)

/-- The quoted scalar at a cursor. -/
def quotedScalar? (single : Bool) (c : Cursor) : Option (List Char × Cursor) :=
  quotedLines? single (c.size + 1) (c.skip 1)

/-- What is kept of the ends of lines behind a block scalar. -/
inductive Chomping where
  | strip
  | clip
  | keep
  deriving DecidableEq

/-- The chomping that a sign behind the mark of a block scalar asks for. -/
def chomping? : Char → Option Chomping
  | '+' => some .keep
  | '-' => some .strip
  | _ => none

/-- The indentation that a digit behind the mark of a block scalar asks for; zero is a fault. -/
def increment? (c : Cursor) : Option (Nat × Cursor) :=
  match c.rest with
  | x :: _ => match digitOf? 10 x with
    | some 0 => none
    | some n => some (n, c.skip 1)
    | none => some (0, c)
  | [] => some (0, c)

/-- A sign for chomping, if there is one. -/
def readChomping (c : Cursor) : Option Chomping × Cursor :=
  match c.rest.head?.bind chomping? with
  | some k => (some k, c.skip 1)
  | none => (none, c)

/-- The sign and the digit behind the mark of a block scalar, in either order. -/
def blockHead? (c : Cursor) : Option (Chomping × Nat × Cursor) :=
  match readChomping c with
  | (some k, c) => (increment? c).map fun (n, c) => (k, n, c)
  | (none, c) => match increment? c with
    | none => none
    | some (0, c) => some (.clip, 0, c)
    | some (n, c) =>
      let (k, c) := readChomping c
      some (k.getD .clip, n, c)

/-- Reads the indentation and the empty lines in front of a line of a block scalar: the greatest
column met, the ends of lines and the cursor at the line. The indentation zero is not known yet. -/
def readIndent (indent : Nat) :
    Nat → Nat → List Char → Cursor → Option (Nat × List Char × Cursor)
  | 0, greatest, breaks, c => some (greatest, breaks, c)
  | steps + 1, greatest, breaks, c =>
    let blanks := (c.rest.takeWhile (· == ' ')).length
    let c := c.skip (if indent = 0 then blanks else min blanks (indent - c.column))
    let greatest := max greatest c.column
    if (indent = 0 || c.column < indent) && c.isAt 0 '\t' then none
    else match c.lineBreak? with
      | some (mark, c) => readIndent indent steps greatest (breaks ++ [mark]) c
      | none => some (greatest, breaks, c)

/-- The text between two lines of a block scalar: the end of the former line and the empty lines
behind it. A folded scalar drops the end of the line, or makes it a blank if no empty line follows,
unless one of the lines begins with a space. -/
def blockGap (folded : Bool) (lineEnd breaks : List Char) : List Char :=
  if folded && lineEnd = ['\n'] then (if breaks.isEmpty then [' '] else breaks)
  else lineEnd ++ breaks

/-- Reads the lines of a block scalar onto its text: the text, the end of the last line, the empty
lines behind it and the cursor. -/
def readBlock (literal : Bool) (indent : Nat) : Nat → List Char → List Char → List Char → Bool →
    Cursor → Option (List Char × List Char × List Char × Cursor)
  | 0, text, lineEnd, breaks, _, c => some (text, lineEnd, breaks, c)
  | steps + 1, text, lineEnd, breaks, spaced, c =>
    if c.column != indent || c.atEnd then some (text, lineEnd, breaks, c)
    else
      let spacedHere := c.has isSpace
      let text := text ++ blockGap (!literal && !spaced && !spacedHere) lineEnd breaks
      let (line, c) := c.take (!isBreak ·)
      let (lineEnd, c) := match c.lineBreak? with
        | some (mark, c') => ([mark], c')
        | none => ([], c)
      match readIndent indent (c.size + 1) 0 [] c with
      | none => none
      | some (_, breaks, c) =>
        readBlock literal indent steps (text ++ line) lineEnd breaks spacedHere c

/-- The block scalar at a cursor, inside a collection that is indented by `level - 1`, or by
nothing if `level` is zero. -/
def blockScalar? (literal : Bool) (level : Nat) (c : Cursor) : Option (List Char × Cursor) :=
  match blockHead? (c.skip 1) with
  | none => none
  | some (chomping, increment, c) => match c.lineEnd? with
    | none => none
    | some c =>
      let c := c.skipBreak
      let known := if increment = 0 then 0 else (level - 1) + increment
      match readIndent known (c.size + 1) 0 [] c with
      | none => none
      | some (greatest, breaks, c) =>
        let indent := if known = 0 then max (max greatest level) 1 else known
        match readBlock literal indent (c.size + 1) [] [] breaks false c with
        | none => none
        | some (text, lineEnd, breaks, c) =>
          let text := if chomping = .strip then text else text ++ lineEnd
          some (if chomping = .keep then text ++ breaks else text, c)

/-- The name of the anchor or alias at a cursor, which a gap or one of a few marks must follow. -/
def anchorName? (c : Cursor) : Option (String × Cursor) :=
  let (name, c) := (c.skip 1).take isNameChar
  let closed := c.gapAt 0 || c.has fun x =>
    x == '?' || x == ':' || x == ',' || x == ']' || x == '\x7d' || x == '%' || x == '@' ||
      x == '\x60'
  if name.isEmpty || !closed then none else some (String.ofList name, c)

/-- The bytes of the escaped character of a tag: the number of bytes that its first byte asks for,
each written as a percent sign and two digits. -/
def escapedBytes? : Nat → List Char → Option (List UInt8 × List Char)
  | 0, cs => some ([], cs)
  | n + 1, '%' :: r => match hexDigits? 2 r with
    | none => none
    | some (v, r) =>
      if v / 64 = 2 then (escapedBytes? n r).map fun (bs, r) => (UInt8.ofNat v :: bs, r) else none
  | _, _ => none

/-- The number of bytes that follow the first byte of a character in UTF-8. -/
def furtherBytes? (v : Nat) : Option Nat :=
  if v < 0x80 then some 0
  else if v / 32 = 6 then some 1
  else if v / 16 = 14 then some 2
  else if v / 8 = 30 then some 3
  else none

/-- The escaped character of a tag at the front of a text, and the number of characters that write
it. -/
def escapedChar? (cs : List Char) : Option (Char × Nat) :=
  match cs with
  | '%' :: r => match hexDigits? 2 r with
    | none => none
    | some (v, r) => match (furtherBytes? v).bind (escapedBytes? · r) with
      | none => none
      | some (bytes, _) =>
        match String.fromUTF8? ⟨(UInt8.ofNat v :: bytes).toArray⟩ with
        | some s => s.toList.head?.map fun c => (c, 3 * (bytes.length + 1))
        | none => none
  | _ => none

/-- The characters of a tag; those of brackets and commas only inside angle brackets. -/
def isTagChar (angled : Bool) (c : Char) : Bool :=
  isNameChar c || c == ';' || c == '/' || c == '?' || c == ':' || c == '@' || c == '&' ||
    c == '=' || c == '+' || c == '$' || c == '.' || c == '%' || c == '!' || c == '~' ||
    c == '*' || c == '\'' || c == '(' || c == ')' || (angled && (c == ',' || c == '[' || c == ']'))

/-- Reads the characters of a tag onto a text. -/
def readTagText (angled : Bool) : Nat → List Char → Cursor → Option (List Char × Cursor)
  | 0, text, c => some (text, c)
  | steps + 1, text, c =>
    match c.rest with
    | [] => some (text, c)
    | x :: _ =>
      if !isTagChar angled x then some (text, c)
      else if x == '%' then
        match escapedChar? c.rest with
        | none => none
        | some (y, width) => readTagText angled steps (text ++ [y]) (c.skip width)
      else readTagText angled steps (text ++ [x]) (c.skip 1)

/-- The text of a tag behind a front that is part of it already; both together are not empty. -/
def tagText? (angled : Bool) (front : List Char) (c : Cursor) : Option (List Char × Cursor) :=
  match readTagText angled (c.size + 1) [] c with
  | none => none
  | some (text, c') =>
    if front.isEmpty && c'.index == c.index then none else some (front.drop 1 ++ text, c')

/-- The handle of a tag: an exclamation mark, and a name and another mark if they follow. -/
def tagHandle? (c : Cursor) : Option (List Char × Cursor) :=
  if !c.isAt 0 '!' then none
  else
    let (name, c) := (c.skip 1).take isNameChar
    if c.isAt 0 '!' then some ('!' :: name ++ ['!'], c.skip 1) else some ('!' :: name, c)

/-- A tag as written: a handle, which is empty if the rest stands for itself, and the rest. -/
def tag? (inBrackets : Bool) (c : Cursor) : Option (String × String × Cursor) :=
  let body : Option (List Char × List Char × Cursor) :=
    if c.isAt 1 '<' then
      match tagText? true [] (c.skip 2) with
      | none => none
      | some (text, c) => if c.isAt 0 '>' then some ([], text, c.skip 1) else none
    else match tagHandle? c with
      | none => none
      | some (handle, c) =>
        if handle.length ≥ 2 && handle.getLast? = some '!' then
          (tagText? false [] c).map fun (text, c) => (handle, text, c)
        else (tagText? false handle c).map fun (text, c) =>
          if text.isEmpty then ([], ['!'], c) else (['!'], text, c)
  match body with
  | none => none
  | some (handle, text, c) =>
    if c.gapAt 0 || (inBrackets && c.isAt 0 ',') then
      some (String.ofList handle, String.ofList text, c)
    else none

/-- A line in front of a document. -/
inductive Directive where
  | version (major minor : Nat)
  | tag (handle front : String)

/-- A number of up to nine digits. -/
def versionNumber? (c : Cursor) : Option (Nat × Cursor) :=
  let (ds, c) := c.take Char.isDigit
  if ds.length > 9 then none else (digits? 10 ds).map fun n => (n, c)

/-- The two numbers of a version. -/
def version? (c : Cursor) : Option (Directive × Cursor) :=
  match versionNumber? (c.skipWhile isSpace) with
  | none => none
  | some (major, c) =>
    if !c.isAt 0 '.' then none
    else (versionNumber? (c.skip 1)).map fun (minor, c) => (.version major minor, c)

/-- A handle and the text that it is to stand for. -/
def tagDirective? (c : Cursor) : Option (Directive × Cursor) :=
  match tagHandle? (c.skipWhile isSpace) with
  | none => none
  | some (handle, c) =>
    if (handle.length ≥ 2 && handle.getLast? != some '!') || !c.has isSpace then none
    else match tagText? true [] (c.skipWhile isSpace) with
      | none => none
      | some (text, c) =>
        if c.gapAt 0 then some (.tag (String.ofList handle) (String.ofList text), c) else none

/-- The directive at a cursor, with the end of its line. -/
def directive? (c : Cursor) : Option (Directive × Cursor) :=
  let (name, c) := (c.skip 1).take isNameChar
  if name.isEmpty || !c.gapAt 0 then none
  else
    let body :=
      if name = ['Y', 'A', 'M', 'L'] then version? c
      else if name = ['T', 'A', 'G'] then tagDirective? c
      else none
    match body with
    | none => none
    | some (d, c) => c.lineEnd?.map fun c => (d, c.skipBreak)

end Rollout.Yaml
