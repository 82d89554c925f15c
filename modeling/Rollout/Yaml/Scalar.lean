import Rollout.Number.Shortest

/-!
# Scalars of YAML

What a scalar stands for. A plain scalar is null, a boolean, a number or, if it is none of these, a
text; a tag of the standard kinds asks for one of them.
-/

namespace Rollout.Yaml

open Rollout.Text (digits?)

/-- What a scalar stands for. Numbers that are written without a minus sign are natural. -/
inductive Scalar where
  | null
  | flag (value : Bool)
  | natural (value : Nat)
  | integer (value : Int)
  | float (value : Floating)
  | text (value : String)

/-- Whether a text is one of the words for null. -/
def isNullWord (s : String) : Bool :=
  s == "~" || s == "null" || s == "Null" || s == "NULL"

/-- The boolean that a word stands for. -/
def flag? (s : String) : Option Bool :=
  if s == "true" || s == "True" || s == "TRUE" then some true
  else if s == "false" || s == "False" || s == "FALSE" then some false
  else none

/-- Whether a numeral has a leading zero in front of nothing but digits, which makes it a text. -/
def isPaddedDigits (cs : List Char) : Bool :=
  let body := match cs with
    | '-' :: r => r
    | '+' :: r => r
    | _ => cs
  match body with
  | '0' :: c :: r => (c :: r).all Char.isDigit
  | _ => false

/-- The number that digits in base 16, 8 or 2 write behind the mark of their base. -/
def based? : List Char → Option Nat
  | '0' :: 'x' :: r => digits? 16 r
  | '0' :: 'o' :: r => digits? 8 r
  | '0' :: 'b' :: r => digits? 2 r
  | _ => none

/-- A whole number without a minus sign. -/
def natural? (cs : List Char) : Option Nat :=
  let body := match cs with
    | '+' :: r => r
    | _ => cs
  match based? body with
  | some n => some n
  | none => if isPaddedDigits cs then none else digits? 10 body

/-- The magnitude of a whole number with a minus sign. -/
def negative? (cs : List Char) : Option Nat :=
  match cs with
  | '-' :: body => match based? body with
    | some n => some n
    | none => if isPaddedDigits cs then none else digits? 10 body
  | _ => none

/-- How a text reads as a whole number. -/
inductive WholeNumber where
  | fits (value : Scalar)
  /-- The number has more than 64 bits but not more than 128. -/
  | tooWide
  | isNone

/-- Reads a whole number of 64 bits. -/
def wholeNumber (cs : List Char) : WholeNumber :=
  match natural? cs, negative? cs with
  | some n, _ =>
    if n < 1 <<< 64 then .fits (.natural n) else if n < 1 <<< 128 then .tooWide else .isNone
  | none, some n =>
    if n ≤ 1 <<< 63 then .fits (.integer (-(n : Int)))
    else if n ≤ 1 <<< 127 then .tooWide else .isNone
  | none, none => .isNone

/-- The float that a text stands for: the words for the infinities and for what is not a number,
or a numeral whose number is finite. -/
def float? (s : String) : Option Floating :=
  if s == ".inf" || s == ".Inf" || s == ".INF" || s == "+.inf" || s == "+.Inf" || s == "+.INF" then
    some (.infinite false)
  else if s == "-.inf" || s == "-.Inf" || s == "-.INF" then some (.infinite true)
  else if s == ".nan" || s == ".NaN" || s == ".NAN" then some .notANumber
  else match s.toList with
    | '+' :: '+' :: _ => none
    | '+' :: '-' :: _ => none
    | cs => Floating.read? cs

/-- What a plain scalar without a tag stands for; nothing if it is a number that is too wide. -/
def Scalar.ofPlain (s : String) : Option Scalar :=
  if s.isEmpty || isNullWord s then some .null
  else match flag? s with
    | some b => some (.flag b)
    | none => match wholeNumber s.toList with
      | .fits v => some v
      | .tooWide => none
      | .isNone =>
        if isPaddedDigits s.toList then some (.text s)
        else match float? s with
          | some f => some (.float f)
          | none => some (.text s)

/-- The tags of the standard kinds. -/
def standardTag (kind : String) : String :=
  "tag:yaml.org,2002:" ++ kind

/-- What a scalar stands for under a tag that is not its own application's: the standard kinds
must fit the text, and any other tag makes it a text. Nothing if the text does not fit. -/
def Scalar.resolve (tag : Option String) (s : String) (plain : Bool) : Option Scalar :=
  match tag with
  | none => if plain then ofPlain s else some (.text s)
  | some t =>
    if t == standardTag "bool" then (flag? s).map .flag
    else if t == standardTag "int" then
      match wholeNumber s.toList with
      | .fits v => some v
      | _ => none
    else if t == standardTag "float" then (float? s).map .float
    else if t == standardTag "null" then if isNullWord s then some .null else none
    else some (.text s)

end Rollout.Yaml
