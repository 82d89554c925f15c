import Rollout.Text.Numeral
import Rollout.Toml.Scan

/-!
# Quoted text

The four kinds of TOML strings. A basic string stands between double quotes and has escapes; a
literal string stands between single quotes and has none; three quotes open the kinds that go over
lines. A line feed stands for every end of a line in a text.
-/

namespace Rollout.Toml

/-- The character that a letter after a backslash stands for. -/
def escaped? : Char → Option Char
  | 'b' => some '\x08'
  | 't' => some '\t'
  | 'n' => some '\n'
  | 'f' => some '\x0c'
  | 'r' => some '\r'
  | '"' => some '"'
  | '\\' => some '\\'
  | _ => none

/-- The character whose number hexadecimal digits write. -/
def scalar? (digits : List Char) : Option Char :=
  match Text.digits? 16 digits with
  | some n => if n.isValidChar then some (Char.ofNat n) else none
  | none => none

/-- The rest of a basic string of one line. -/
def basicBody : List Char → Option (List Char × List Char)
  | '\\' :: 'u' :: a :: b :: c :: d :: r => do
    let first ← scalar? [a, b, c, d]
    let (text, rest) ← basicBody r
    return (first :: text, rest)
  | '\\' :: 'U' :: a :: b :: c :: d :: e :: f :: g :: h :: r => do
    let first ← scalar? [a, b, c, d, e, f, g, h]
    let (text, rest) ← basicBody r
    return (first :: text, rest)
  | '\\' :: e :: r => do
    let first ← escaped? e
    let (text, rest) ← basicBody r
    return (first :: text, rest)
  | '"' :: r => some ([], r)
  | c :: r =>
    if Scan.isPrintable c then do
      let (text, rest) ← basicBody r
      return (c :: text, rest)
    else none
  | [] => none

/-- Where the reading of a string over lines stands. -/
inductive Margin where
  | inText
  /-- Behind a backslash that only spaces may separate from the end of its line. -/
  | beforeBreak
  /-- Behind a line that ended with a backslash: blanks and ends of lines do not count. -/
  | afterBreak

/-- The rest of a basic string over lines. It ends at three double quotes, of which up to two more
may stand in front as text. -/
def basicLines : Margin → List Char → Option (List Char × List Char)
  | .beforeBreak, '\r' :: '\n' :: r => basicLines .afterBreak r
  | .beforeBreak, c :: r =>
    if c = '\n' then basicLines .afterBreak r
    else if Scan.isSpace c then basicLines .beforeBreak r
    else none
  | .afterBreak, ' ' :: r => basicLines .afterBreak r
  | .afterBreak, '\t' :: r => basicLines .afterBreak r
  | .afterBreak, '\n' :: r => basicLines .afterBreak r
  | .afterBreak, '\r' :: '\n' :: r => basicLines .afterBreak r
  | _, '"' :: '"' :: '"' :: '"' :: '"' :: r => some (['"', '"'], r)
  | _, '"' :: '"' :: '"' :: '"' :: r => some (['"'], r)
  | _, '"' :: '"' :: '"' :: r => some ([], r)
  | _, '\\' :: 'u' :: a :: b :: c :: d :: r => do
    let first ← scalar? [a, b, c, d]
    let (text, rest) ← basicLines .inText r
    return (first :: text, rest)
  | _, '\\' :: 'U' :: a :: b :: c :: d :: e :: f :: g :: h :: r => do
    let first ← scalar? [a, b, c, d, e, f, g, h]
    let (text, rest) ← basicLines .inText r
    return (first :: text, rest)
  | _, '\\' :: '\r' :: '\n' :: r => basicLines .afterBreak r
  | _, '\\' :: e :: r =>
    if e = '\n' then basicLines .afterBreak r
    else if Scan.isSpace e then basicLines .beforeBreak r
    else do
      let first ← escaped? e
      let (text, rest) ← basicLines .inText r
      return (first :: text, rest)
  | _, '\r' :: '\n' :: r => do
    let (text, rest) ← basicLines .inText r
    return ('\n' :: text, rest)
  | _, c :: r =>
    if c = '\n' ∨ Scan.isPrintable c then do
      let (text, rest) ← basicLines .inText r
      return (c :: text, rest)
    else none
  | _, [] => none

/-- The rest of a literal string of one line. -/
def literalBody : List Char → Option (List Char × List Char)
  | [] => none
  | c :: r =>
    if c = '\'' then some ([], r)
    else if Scan.isPrintable c then do
      let (text, rest) ← literalBody r
      return (c :: text, rest)
    else none

/-- The rest of a literal string over lines. It ends at three single quotes, of which up to two
more may stand in front as text. -/
def literalLines : List Char → Option (List Char × List Char)
  | '\'' :: '\'' :: '\'' :: '\'' :: '\'' :: r => some (['\'', '\''], r)
  | '\'' :: '\'' :: '\'' :: '\'' :: r => some (['\''], r)
  | '\'' :: '\'' :: '\'' :: r => some ([], r)
  | '\r' :: '\n' :: r => do
    let (text, rest) ← literalLines r
    return ('\n' :: text, rest)
  | c :: r =>
    if c = '\n' ∨ Scan.isPrintable c then do
      let (text, rest) ← literalLines r
      return (c :: text, rest)
    else none
  | [] => none

/-- A string of one line. -/
def quotedLine : Scan String
  | '"' :: r => (basicBody r).map fun (text, rest) => (String.ofList text, rest)
  | '\'' :: r => (literalBody r).map fun (text, rest) => (String.ofList text, rest)
  | _ => none

/-- Characters without the end of a line at their front. -/
def withoutBreak : List Char → List Char
  | '\n' :: r => r
  | '\r' :: '\n' :: r => r
  | cs => cs

/-- A string of any kind. -/
def quoted : Scan String
  | '"' :: '"' :: '"' :: r =>
    (basicLines .inText (withoutBreak r)).map fun (text, rest) => (String.ofList text, rest)
  | '\'' :: '\'' :: '\'' :: r =>
    (literalLines (withoutBreak r)).map fun (text, rest) => (String.ofList text, rest)
  | cs => quotedLine cs

end Rollout.Toml
