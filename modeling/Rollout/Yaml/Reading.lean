import Rollout.Yaml.Node
import Rollout.Yaml.Value

/-!
# Reading documents by a schema

Readers of nodes that keep to the order of the text: the first complaint wins, be it about the
schema or about a fault of the text. Aliases are followed, up to a hundred times the number of
events of the document, and collections nest up to a depth.
-/

namespace Rollout.Yaml

/-- Why a document does not fit a schema. -/
inductive Complaint where
  | missingField (name : String)
  | unknownField (name : String)
  | unknownVariant (name : String)
  | duplicateField (name : String)
  /-- The text is at fault, or a node is not of the kind that the schema asks for. -/
  | unfit
  deriving DecidableEq, Repr

/-- The wording of a complaint about the names of a schema; any other complaint has none. -/
def Complaint.message : Complaint → String
  | missingField name => s!"missing field `{name}`"
  | unknownField name => s!"unknown field `{name}`"
  | unknownVariant name => s!"unknown variant `{name}`"
  | duplicateField name => s!"duplicate field `{name}`"
  | unfit => ""

/-- A reader of some part of a document, which counts the aliases it follows. -/
abbrev Read (α : Type) := StateT Nat (Except Complaint) α

/-- The greatest depth of collections. -/
def depthLimit : Nat := 128

namespace Document

/-- Ends the reading. -/
def fail {α : Type} (c : Complaint) : Read α :=
  fun _ => .error c

/-- The node that a node stands for, which is neither an alias nor broken. -/
def target (d : Document) (n : Node) : Read Node :=
  match n with
  | .alias number => fun followed =>
    if d.size * 100 ≤ followed then .error .unfit
    else match d.anchored.lookup number with
      | some (.scalar tag text plain) => .ok (.scalar tag text plain, followed + 1)
      | some (.sequence tag items) => .ok (.sequence tag items, followed + 1)
      | some (.mapping tag entries) => .ok (.mapping tag entries, followed + 1)
      | _ => .error .unfit
  | .broken => fail .unfit
  | n => pure n

/-- The text of a scalar as written. -/
def text (d : Document) (n : Node) : Read String := do
  match ← d.target n with
  | .scalar _ text _ => pure text
  | _ => fail .unfit

/-- What a reader yields for a node that is not null. A plain scalar without a tag is null where
its text is; one with the tag of null must be. -/
def optional {α : Type} (d : Document) (read : Node → Read α) (n : Node) : Read (Option α) := do
  let n ← d.target n
  let given : Read (Option α) := do return some (← read n)
  match n with
  | .scalar none text true => if text.isEmpty || isNullWord text then pure none else given
  | .scalar (some tag) text true =>
    if tag == standardTag "null" then (if isNullWord text then pure none else fail .unfit)
    else given
  | _ => given

/-- Whether a node is an empty plain scalar, which stands for an empty collection. -/
def isEmptyScalar : Node → Bool
  | .scalar _ text true => text.isEmpty
  | _ => false

/-- The items of a list, each read at a depth less by one. -/
def items {α : Type} (d : Document) (depth : Nat) (read : Nat → Node → Read α) (n : Node) :
    Read (List α) := do
  match ← d.target n with
  | .sequence _ nodes => match depth with
    | 0 => fail .unfit
    | depth + 1 => nodes.mapM (read depth)
  | n => if isEmptyScalar n then pure [] else fail .unfit

/-- The entries of a mapping; an empty scalar has none. -/
def entries (d : Document) (n : Node) : Read (List (Node × Node)) := do
  match ← d.target n with
  | .mapping _ es => pure es
  | n => if isEmptyScalar n then pure [] else fail .unfit

/-- Reads named entries onto a listing. -/
def listEntries {α : Type} (d : Document) (read : Node → Read α) :
    List (Node × Node) → Listing α → Read (Listing α)
  | [], l => pure l
  | (k, v) :: more, l => do
    let name ← d.text k
    let a ← read v
    listEntries d read more (l.put name a)

/-- A mapping from names of any kind; a name given again replaces the value. -/
def listing {α : Type} (d : Document) (depth : Nat) (read : Nat → Node → Read α) (n : Node) :
    Read (Listing α) := do
  let es ← d.entries n
  match es, depth with
  | [], _ => pure Listing.empty
  | _, 0 => fail .unfit
  | es, depth + 1 => listEntries d (read depth) es Listing.empty

/-- A field of a record: its names, of which the first is its proper one, and how its node is read
into the record. -/
structure RecordField (σ : Type) where
  name : String
  otherNames : List String
  read : Node → σ → Read σ

/-- Whether a field goes by a name. -/
def RecordField.goesBy {σ : Type} (f : RecordField σ) (name : String) : Bool :=
  f.name == name || f.otherNames.contains name

/-- Reads the entries of a record, each of which must be a field that has not been given before. -/
def recordEntries {σ : Type} (d : Document) (fields : List (RecordField σ)) :
    List (Node × Node) → List String → σ → Read σ
  | [], _, s => pure s
  | (k, v) :: more, given, s => do
    let name ← d.text k
    match fields.find? fun f => f.goesBy name with
    | none => fail (.unknownField name)
    | some f =>
      if given.contains f.name then fail (.duplicateField f.name)
      else do
        let s ← f.read v s
        recordEntries d fields more (f.name :: given) s

/-- A mapping of fields, whose nodes are read at a depth less by one. -/
def record {σ : Type} (d : Document) (depth : Nat) (fields : Nat → List (RecordField σ)) (empty : σ)
    (n : Node) : Read σ := do
  let es ← d.entries n
  match es, depth with
  | [], _ => pure empty
  | _, 0 => fail .unfit
  | es, depth + 1 => d.recordEntries (fields depth) es [] empty

/-- Whether values keep the tags of an application, as a value by itself does, or must have none,
as a part of a buffered record. A buffered record allows a key to come twice. -/
inductive Strictness where
  | tagged
  | buffered
  deriving DecidableEq

/-- The name of a tag of an application, which is what follows the exclamation mark in front; a
lone exclamation mark is a name. -/
def ownTag? : Option String → Option String
  | some tag => match tag.toList with
    | ['!'] => some tag
    | '!' :: r => some (String.ofList r)
    | _ => none
  | none => none

/-- A scalar under a tag that is not of an application. -/
def scalar (tag : Option String) (text : String) (plain : Bool) : Read Scalar :=
  match Scalar.resolve tag text plain with
  | some s => pure s
  | none => fail .unfit

/-- A value under the tag of its application, if it has one. -/
def underTag (strictness : Strictness) (tag : Option String) (read : Option String → Read Value) :
    Read Value :=
  match ownTag? tag with
  | none => read tag
  | some name =>
    if strictness = .buffered then fail .unfit
    else do return .tagged name (← read none)

/-- Reads the entries of a mapping behind some entries, which stand in reverse. -/
def valueEntries (strictness : Strictness) (read : Node → Read Value) :
    List (Node × Node) → List (Value × Value) → Read (List (Value × Value))
  | [], before => pure before.reverse
  | (k, v) :: more, before => do
    let key ← read k
    if strictness = .tagged && before.any fun e => e.1.same key then fail .unfit
    else do
      let value ← read v
      valueEntries strictness read more ((key, value) :: before)

/-- A value whose parts are read by a reader, or must be missing. -/
def valueOf (d : Document) (strictness : Strictness) (read? : Option (Node → Read Value))
    (n : Node) : Read Value := do
  match ← d.target n with
  | .scalar tag text plain =>
    underTag strictness tag fun tag => do return Value.ofScalar (← scalar tag text plain)
  | .sequence tag nodes => underTag strictness tag fun _ => match read? with
    | none => fail .unfit
    | some read => do return .list (← nodes.mapM read)
  | .mapping tag es => underTag strictness tag fun _ => match read? with
    | none => fail .unfit
    | some read => do return .mapping (← valueEntries strictness read es [])
  | _ => fail .unfit

/-- A value of any kind that nests up to a depth. -/
def value (d : Document) (strictness : Strictness) : Nat → Node → Read Value
  | 0, n => d.valueOf strictness none n
  | depth + 1, n => d.valueOf strictness (some (d.value strictness depth)) n

/-- What a reader yields for the root of a document that ends without a fault. -/
def read {α : Type} (d : Document) (reader : Node → Read α) : Except Complaint α :=
  match reader d.root 0 with
  | .error c => .error c
  | .ok (a, _) => if d.sound then .ok a else .error .unfit

end Document

end Rollout.Yaml
