import Rollout.Listing
import Rollout.Plan.Error
import Rollout.RecoveryModel
import Rollout.Text.Blank
import Rollout.Text.Cut
import Rollout.Text.Numeral

/-!
# Templates

A template is a text with references to parameters: two opening braces, a key, two closing braces,
where the key is `params.` and a name. A template is laid out once, from the left, into literal
texts and keys; expansion puts values in the places of the keys, and a value is never looked at
again, whatever braces it holds.
-/

namespace Rollout

open Rollout.Text (isBlank trimChars cutAtPair length_of_cutAtPair)

/-- The values of parameters by name. -/
abbrev Params := Listing String

/-- A text of the manifest that may refer to parameters. -/
structure Template where
  text : String
  deriving DecidableEq, Repr, Inhabited

namespace Template

/-- How a template falls into pieces: every reference with the literal text in front of it, the
text behind the last reference, and the byte position of an opening that is never closed. -/
structure Layout where
  references : List (List Char × List Char)
  tail : List Char
  unclosed : Option Nat

/-- The number of bytes that characters take in UTF-8. -/
def byteLength : List Char → Nat
  | [] => 0
  | c :: r => c.utf8Size + byteLength r

/-- The layout of characters that stand `offset` bytes into a template. -/
def layoutFrom (offset : Nat) (cs : List Char) : Layout :=
  match _h : cutAtPair '\x7b' cs with
  | none => ⟨[], cs, none⟩
  | some (before, inner) =>
    match _h' : cutAtPair '\x7d' inner with
    | none => ⟨[], cs, some (offset + byteLength before)⟩
    | some (key, rest) =>
      let more := layoutFrom (offset + byteLength before + byteLength key + 4) rest
      ⟨(before, key) :: more.references, more.tail, more.unclosed⟩
termination_by cs.length
decreasing_by
  have h1 := length_of_cutAtPair ‹cutAtPair '\x7b' cs = _›
  have h2 := length_of_cutAtPair ‹cutAtPair '\x7d' inner = _›
  omega

/-- The layout of a template. -/
def layout (t : Template) : Layout :=
  layoutFrom 0 t.text.toList

/-- Characters behind a given front. -/
def afterFront : List Char → List Char → Option (List Char)
  | [], cs => some cs
  | _ :: _, [] => none
  | f :: fs, c :: cs => if f = c then afterFront fs cs else none

/-- What a key must begin with. -/
def keyFront : List Char :=
  ['p', 'a', 'r', 'a', 'm', 's', '.']

/-- The name that a key refers to: what follows `params.` in the trimmed key, if anything does. -/
def nameOfKey (key : List Char) : Except TemplateFault String :=
  match afterFront keyFront (trimChars key) with
  | some (c :: r) => .ok (String.ofList (c :: r))
  | _ => .error (.unknownReference (String.ofList (trimChars key)))

/-- The names that keys refer to, up to the first key that refers to none. -/
def namesOfKeys : List (List Char × List Char) → Except TemplateFault (List String)
  | [] => .ok []
  | (_, key) :: more =>
    match nameOfKey key with
    | .error fault => .error fault
    | .ok name => match namesOfKeys more with
      | .error fault => .error fault
      | .ok names => .ok (name :: names)

/-- The names that a well-formed template refers to, in order and with repetitions, or the first
fault of the template from the left. -/
def names (t : Template) : Except PlanError (List String) :=
  match namesOfKeys t.layout.references with
  | .error fault => .error (.malformed t.text fault)
  | .ok names => match t.layout.unclosed with
    | some position => .error (.malformed t.text (.unclosed position))
    | none => .ok names

/-- Whether a template is well formed, whatever its parameters. -/
def check (t : Template) : Except PlanError Unit :=
  match t.names with
  | .error e => .error e
  | .ok _ => .ok ()

/-- Literal texts and the values of the references behind them, up to the first reference that is
malformed or has no value. -/
def substitute (t : Template) (value? : String → Option String) :
    List (List Char × List Char) → Except PlanError (List Char)
  | [] => .ok []
  | (before, key) :: more =>
    match nameOfKey key with
    | .error fault => .error (.malformed t.text fault)
    | .ok name => match value? name with
      | none => .error (.missingReference t.text name)
      | some value => match substitute t value? more with
        | .error e => .error e
        | .ok rest => .ok (before ++ value.toList ++ rest)

/-- The template with the value of each parameter in the place of each reference to it. -/
def expandWith (t : Template) (value? : String → Option String) : Except PlanError String :=
  match t.substitute value? t.layout.references with
  | .error e => .error e
  | .ok body => match t.layout.unclosed with
    | some position => .error (.malformed t.text (.unclosed position))
    | none => .ok (String.ofList (body ++ t.layout.tail))

/-- The template expanded by parameters. -/
def expand (params : Params) (t : Template) : Except PlanError String :=
  t.expandWith params.get?

/-- The letters, digits and the underscore of ASCII. -/
def isWordChar (c : Char) : Bool :=
  c.isAlphanum || c == '_'

/-- An identifier is a word that does not begin with a digit. -/
def isIdentifier (name : List Char) : Bool :=
  match name with
  | [] => false
  | c :: r => isWordChar c && !c.isDigit && r.all isWordChar

/-- A reference at the front of a text whose name is an identifier: the name and the rest. -/
def mention? (cs : List Char) : Option (List Char × List Char) :=
  match cs with
  | '\x7b' :: '\x7b' :: r =>
    match afterFront keyFront (r.dropWhile isBlank) with
    | none => none
    | some r' =>
      let name := r'.takeWhile isWordChar
      match (r'.dropWhile isWordChar).dropWhile isBlank with
      | '\x7d' :: '\x7d' :: rest => if isIdentifier name then some (name, rest) else none
      | _ => none
  | _ => none

/-- What follows a front is no longer than the text. -/
theorem length_of_afterFront {front cs r : List Char} (h : afterFront front cs = some r) :
    r.length ≤ cs.length := by
  fun_induction afterFront front cs with
  | case1 => simp_all
  | case2 => simp at h
  | case3 fs c cs ih =>
    have := ih h
    simp only [List.length_cons]
    omega
  | case4 => simp at h

/-- What follows a mention is shorter than the text, so the search for mentions ends. -/
theorem length_of_mention {cs name rest : List Char} (h : mention? cs = some (name, rest)) :
    rest.length < cs.length := by
  unfold mention? at h
  split at h
  · rename_i r
    split at h
    · simp at h
    · rename_i r' hr
      simp only at h
      split at h
      · rename_i rest' hd
        split at h
        · simp only [Option.some.injEq, Prod.mk.injEq] at h
          have h1 := length_of_afterFront hr
          have h2 : (r.dropWhile isBlank).length ≤ r.length :=
            (List.dropWhile_sublist isBlank).length_le
          have h3 : (r'.dropWhile isWordChar).length ≤ r'.length :=
            (List.dropWhile_sublist isWordChar).length_le
          have h4 : ((r'.dropWhile isWordChar).dropWhile isBlank).length ≤
              (r'.dropWhile isWordChar).length := (List.dropWhile_sublist isBlank).length_le
          rw [hd] at h4
          simp only [List.length_cons] at h4 ⊢
          rw [← h.2]
          omega
        · simp at h
      · simp at h
  · simp at h

/-- The names of the references to identifiers, found from the left and one behind the other. -/
def mentionsIn (cs : List Char) : List String :=
  match _h : mention? cs with
  | some (name, rest) => String.ofList name :: mentionsIn rest
  | none => match cs with
    | [] => []
    | _ :: r => mentionsIn r
termination_by cs.length
decreasing_by
  · exact length_of_mention ‹_›
  · simp

/-- The identifiers that a template refers to, whether or not the template is well formed. -/
def mentions (t : Template) : List String :=
  mentionsIn t.text.toList

/-- A way to read trimmed text as a value of a named type. -/
structure Reading (α : Type) where
  typeName : String
  read? : List Char → Option α

/-- Signed numbers of 32 bits. -/
def Reading.int32 : Reading Int :=
  ⟨"i32", Text.int32?⟩

/-- Unsigned numbers of 16 bits. -/
def Reading.uint16 : Reading Nat :=
  ⟨"u16", Text.uint16?⟩

/-- The words `true` and `false`. -/
def Reading.flag : Reading Bool :=
  ⟨"bool", fun cs =>
    if cs = ['t', 'r', 'u', 'e'] then some true
    else if cs = ['f', 'a', 'l', 's', 'e'] then some false else none⟩

/-- Recovery models. -/
def Reading.recoveryModel : Reading RecoveryModel :=
  ⟨"RecoveryModel", fun cs => (RecoveryModel.read (String.ofList cs)).toOption⟩

/-- The template expanded, trimmed and read; the error keeps the text as it was before it was
trimmed. -/
def expandAs {α : Type} (reading : Reading α) (params : Params) (t : Template) :
    Except PlanError α :=
  match t.expand params with
  | .error e => .error e
  | .ok value => match reading.read? (trimChars value.toList) with
    | some a => .ok a
    | none => .error (.conversion t.text value reading.typeName)

end Template

end Rollout
