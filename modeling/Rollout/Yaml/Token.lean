import Rollout.Text.Cut
import Rollout.Yaml.Lexeme

/-!
# Tokens of YAML

The tokens of a text, in which indentation has become explicit starts and ends of blocks. A token
can only be given out once it is sure that no key begins at it, so a fault in the text also takes
the tokens that wait for a decision. The list of tokens ends in `streamEnd` if and only if the text
has no fault.
-/

namespace Rollout.Yaml

/-- A token. -/
inductive Token where
  | streamEnd
  | directive (d : Directive)
  | documentStart
  | documentEnd
  | blockSequenceStart
  | blockMappingStart
  | blockEnd
  | flowSequenceStart
  | flowSequenceEnd
  | flowMappingStart
  | flowMappingEnd
  | blockEntry
  | flowEntry
  | key
  | value
  | alias (name : String)
  | anchor (name : String)
  | tag (handle text : String)
  | scalar (text : String) (plain : Bool)

/-- A place where a key may have begun without a question mark: the number of the token there and
where it stands. A required key stands at the indentation of a block. -/
structure KeyPlace where
  required : Bool
  number : Nat
  index : Nat
  line : Nat
  column : Nat

/-- The state of the reader of tokens. Indentation is counted from one, zero being the outside of
all blocks. -/
structure Reader where
  cursor : Cursor
  /-- Tokens that wait to be given out. -/
  queue : List Token
  /-- The number of tokens given out. -/
  given : Nat
  /-- The places of possible keys, innermost brackets first. -/
  keys : List (Option KeyPlace)
  /-- Whether a key may begin here. -/
  keyAllowed : Bool
  level : Nat
  outer : List Nat
  /-- The number of brackets around the cursor. -/
  depth : Nat

namespace Reader

/-- The reader in front of a text. -/
def start (cs : List Char) : Reader :=
  ⟨Cursor.start cs, [], 0, [none], true, 0, [], 0⟩

/-- Whether the cursor is inside brackets. -/
def inBrackets (r : Reader) : Bool :=
  r.depth != 0

/-- The reader with one more token in the queue. -/
def enqueue (r : Reader) (t : Token) : Reader :=
  { r with queue := r.queue ++ [t] }

/-- The reader with a token put in front of the one of some number. -/
def insertAt (r : Reader) (number : Nat) (t : Token) : Reader :=
  let i := number - r.given
  { r with queue := r.queue.take i ++ t :: r.queue.drop i }

/-- Gives up the possible key of the innermost brackets; a required key must not be given up. -/
def dropKey (r : Reader) : Option Reader :=
  match r.keys with
  | some k :: more => if k.required then none else some { r with keys := none :: more }
  | _ => some r

/-- Whether a key can no longer begin at a place: it must end on its line and within 1024
characters. -/
def isStale (r : Reader) (k : KeyPlace) : Bool :=
  k.line < r.cursor.line || k.index + 1024 < r.cursor.index

/-- Gives up the possible keys that are stale; a required one must not be. -/
def dropStale (r : Reader) : Option Reader :=
  let stale (k : KeyPlace) := r.isStale k
  if r.keys.any fun k? => k?.any fun k => stale k && k.required then none
  else some { r with keys := r.keys.map fun k? => k?.filter fun k => !stale k }

/-- Notes that a key may begin at the cursor. -/
def noteKey (r : Reader) : Option Reader :=
  if !r.keyAllowed then some r
  else
    let c := r.cursor
    let place : KeyPlace :=
      ⟨!r.inBrackets && r.level == c.column + 1, r.given + r.queue.length, c.index, c.line,
        c.column⟩
    r.dropKey.map fun r => { r with keys := some place :: r.keys.drop 1 }

/-- Opens a block at a column, if the column is further in than the current block, with its start
in front of the token of some number or at the end of the queue. -/
def openBlock (r : Reader) (column : Nat) (number? : Option Nat) (t : Token) : Reader :=
  if r.inBrackets || column + 1 ≤ r.level then r
  else
    let r := { r with outer := r.level :: r.outer, level := column + 1 }
    match number? with
    | some number => r.insertAt number t
    | none => r.enqueue t

/-- Closes the blocks that are further in than a level. -/
def closeBlocks (r : Reader) (level : Nat) : Reader :=
  if r.inBrackets then r
  else
    let ended := (r.level :: r.outer).takeWhile (level < ·)
    let kept := (r.level :: r.outer).drop ended.length
    { r with
      queue := r.queue ++ ended.map fun _ => .blockEnd
      level := kept.headD 0
      outer := kept.drop 1 }

/-- Adds a token of some characters at the cursor. -/
def mark (r : Reader) (width : Nat) (t : Token) : Reader :=
  { r with cursor := r.cursor.skip width, queue := r.queue ++ [t] }

/-- The cursor at the next token: behind blanks, comments and ends of lines. A tab is skipped only
where no key may begin. In a block a new line allows a key. -/
def skipGap : Nat → Reader → Reader
  | 0, r => r
  | steps + 1, r =>
    let c := r.cursor
    let c := if c.column == 0 && c.isAt 0 '\ufeff' then c.skip 1 else c
    let c := c.skipWhile fun x => x == ' ' || (x == '\t' && (r.inBrackets || !r.keyAllowed))
    let c := if c.isAt 0 '#' then c.skipWhile (!isBreak ·) else c
    match c.lineBreak? with
    | some (_, c) =>
      skipGap steps { r with cursor := c, keyAllowed := r.keyAllowed || !r.inBrackets }
    | none => { r with cursor := c }

/-- Ends all blocks, as the marks of documents, directives and the end of the text do. -/
def endBlocks (r : Reader) : Option Reader :=
  (r.closeBlocks 0).dropKey.map fun r => { r with keyAllowed := false }

/-- The end of the text, where a line ends too. -/
def readEnd (r : Reader) : Option Reader :=
  let c := r.cursor
  let c := if c.column == 0 then c else { c with line := c.line + 1, column := 0 }
  ({ r with cursor := c } : Reader).endBlocks.map fun r => r.enqueue .streamEnd

/-- A directive. -/
def readDirective (r : Reader) : Option Reader :=
  match r.endBlocks with
  | none => none
  | some r => (directive? r.cursor).map fun (d, c) =>
    { r with cursor := c, queue := r.queue ++ [.directive d] }

/-- The mark of the start or the end of a document. -/
def readDocumentMark (t : Token) (r : Reader) : Option Reader :=
  r.endBlocks.map fun r => r.mark 3 t

/-- An opening bracket. -/
def readOpening (t : Token) (r : Reader) : Option Reader :=
  r.noteKey.map fun r =>
    { r with keys := none :: r.keys, depth := r.depth + 1, keyAllowed := true }.mark 1 t

/-- A closing bracket. -/
def readClosing (t : Token) (r : Reader) : Option Reader :=
  r.dropKey.map fun r =>
    let keys := if r.inBrackets then r.keys.drop 1 else r.keys
    { r with keys := keys, depth := r.depth - 1, keyAllowed := false }.mark 1 t

/-- A comma between brackets. -/
def readFlowEntry (r : Reader) : Option Reader :=
  r.dropKey.map fun r => { r with keyAllowed := true }.mark 1 .flowEntry

/-- The dash of an entry of a block. -/
def readBlockEntry (r : Reader) : Option Reader :=
  if !r.inBrackets && !r.keyAllowed then none
  else (r.openBlock r.cursor.column none .blockSequenceStart).dropKey.map fun r =>
    { r with keyAllowed := true }.mark 1 .blockEntry

/-- The question mark of a key. -/
def readKey (r : Reader) : Option Reader :=
  if !r.inBrackets && !r.keyAllowed then none
  else (r.openBlock r.cursor.column none .blockMappingStart).dropKey.map fun r =>
    { r with keyAllowed := !r.inBrackets }.mark 1 .key

/-- The colon of a value; if a key may have begun before it, it has. -/
def readValue (r : Reader) : Option Reader :=
  match r.keys with
  | some k :: more =>
    let r := (r.insertAt k.number .key).openBlock k.column (some k.number) .blockMappingStart
    some ({ r with keys := none :: more, keyAllowed := false }.mark 1 .value)
  | _ =>
    if !r.inBrackets && !r.keyAllowed then none
    else
      let r := r.openBlock r.cursor.column none .blockMappingStart
      some ({ r with keyAllowed := !r.inBrackets }.mark 1 .value)

/-- A lexeme that may be a key. -/
def readLexeme (lexeme : Option (Token × Cursor)) (r : Reader) : Option Reader :=
  match r.noteKey, lexeme with
  | some r, some (t, c) => some { r with cursor := c, keyAllowed := false, queue := r.queue ++ [t] }
  | _, _ => none

/-- A block scalar, behind which a new line begins. -/
def readBlockScalar (literal : Bool) (r : Reader) : Option Reader :=
  match r.dropKey with
  | none => none
  | some r => (blockScalar? literal r.level r.cursor).map fun (text, c) =>
    { r with
      cursor := c, keyAllowed := true
      queue := r.queue ++ [.scalar (String.ofList text) false] }

/-- A plain scalar; if it ends in a new line, a key may follow. -/
def readPlainScalar (r : Reader) : Option Reader :=
  match r.noteKey with
  | none => none
  | some r => (plainScalar? r.inBrackets r.level r.cursor).map fun (text, newLine, c) =>
    { r with
      cursor := c, keyAllowed := newLine
      queue := r.queue ++ [.scalar (String.ofList text) true] }

/-- Whether a plain scalar may begin with a character, whatever follows it. -/
def beginsPlain (c : Char) : Bool :=
  !(isGap c || isBracketMark c || c == '-' || c == '?' || c == ':' || c == '#' || c == '&' ||
    c == '*' || c == '!' || c == '|' || c == '>' || c == '\'' || c == '"' || c == '%' ||
    c == '@' || c == '\x60')

/-- The token that a character begins at the cursor. -/
def readAt (x : Char) (r : Reader) : Option Reader :=
  let c := r.cursor
  let flow := r.inBrackets
  let named (f : String → Token) := (anchorName? c).map fun (n, c) => (f n, c)
  if c.column == 0 && x == '%' then r.readDirective
  else if c.documentMark '-' then r.readDocumentMark .documentStart
  else if c.documentMark '.' then r.readDocumentMark .documentEnd
  else if x == '[' then r.readOpening .flowSequenceStart
  else if x == '\x7b' then r.readOpening .flowMappingStart
  else if x == ']' then r.readClosing .flowSequenceEnd
  else if x == '\x7d' then r.readClosing .flowMappingEnd
  else if x == ',' then r.readFlowEntry
  else if x == '-' && c.gapAt 1 then r.readBlockEntry
  else if x == '?' && (flow || c.gapAt 1) then r.readKey
  else if x == ':' && (flow || c.gapAt 1) then r.readValue
  else if x == '*' then r.readLexeme (named .alias)
  else if x == '&' then r.readLexeme (named .anchor)
  else if x == '!' then r.readLexeme ((tag? flow c).map fun (h, t, c) => (.tag h t, c))
  else if x == '|' && !flow then r.readBlockScalar true
  else if x == '>' && !flow then r.readBlockScalar false
  else if x == '\'' || x == '"' then
    r.readLexeme ((quotedScalar? (x == '\'') c).map fun (t, c) =>
      (.scalar (String.ofList t) false, c))
  else if beginsPlain x || (x == '-' && !(c.isAt 1 ' ' || c.isAt 1 '\t')) ||
      (!flow && (x == '?' || x == ':') && !c.gapAt 1) then
    r.readPlainScalar
  else none

/-- Reads the next token into the queue, with the blocks that open or close in front of it. -/
def fetch (r : Reader) : Option Reader :=
  match (r.skipGap (r.cursor.size + 1)).dropStale with
  | none => none
  | some r =>
    let r := r.closeBlocks (r.cursor.column + 1)
    match r.cursor.rest with
    | [] => r.readEnd
    | x :: _ => r.readAt x

/-- Whether a key may begin at the first token of the queue. -/
def waits (r : Reader) : Bool :=
  r.keys.any fun k? => k?.any fun k => k.number == r.given

/-- The tokens of a queue that can be given out, and the reader without them. -/
def giveOut : List Token → Reader → List Token × Reader
  | [], r => ([], { r with queue := [] })
  | t :: ts, r =>
    if r.waits then ([], { r with queue := t :: ts })
    else
      let (out, r) := giveOut ts { r with given := r.given + 1 }
      (t :: out, r)

/-- The tokens from a state of the reader on. -/
def run : Nat → Reader → List Token
  | 0, _ => []
  | steps + 1, r =>
    match r.fetch with
    | none => []
    | some r => match r.dropStale with
      | none => []
      | some r =>
        let (out, r) := giveOut r.queue r
        match out.getLast? with
        | some .streamEnd => out
        | _ => out ++ run steps r

end Reader

/-- The characters that a YAML text may hold: no control character but tabs and ends of lines, and
no noncharacter of the basic plane. -/
def isAllowed (c : Char) : Bool :=
  let n := c.toNat
  n == 0x09 || n == 0x0A || n == 0x0D || (0x20 ≤ n && n ≤ 0x7E) || n == 0x85 ||
    (0xA0 ≤ n && n ≤ 0xFFFD) || 0x10000 ≤ n

/-- The tokens of a text, which may begin with a byte order mark. -/
def tokens (cs : List Char) : List Token :=
  let cs := Text.withoutOrderMark cs
  if cs.all isAllowed then Reader.run (cs.length + 2) (Reader.start cs) else []

end Rollout.Yaml
