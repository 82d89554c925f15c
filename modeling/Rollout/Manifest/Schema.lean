import Rollout.Manifest
import Rollout.Yaml.Reading

/-!
# The schema of manifests

How a document is read as a manifest. Every mapping of fixed fields refuses keys that are not among
them and fields that are given twice. An operation is read whole before its fields are looked at;
its kind may stand anywhere in its mapping, or in front of its fields in a list.
-/

namespace Rollout.Manifest

open Rollout.Yaml (Complaint Document Node Read Scalar Value)
open Rollout.Yaml.Document (RecordField fail)

/-- How often a field of an operation may be given. -/
inductive Arity where
  | required
  | optional
  | many
  deriving DecidableEq

/-- The kinds of operations. -/
inductive Kind where
  | login
  | database
  | distributor
  | publication
  | subscription
  | backup
  | restore
  | mirroring
  deriving DecidableEq

/-- The kind that a word names. -/
def Kind.ofWord? : String → Option Kind
  | "login" => some login
  | "database" => some database
  | "distributor" => some distributor
  | "publication" => some publication
  | "subscription" => some subscription
  | "backup" => some backup
  | "restore" => some restore
  | "mirroring" => some mirroring
  | _ => none

/-- The fields of the operations of a kind, in order. -/
def Kind.fields : Kind → List (String × Arity)
  | login =>
    [("name", .required), ("password", .optional), ("default_database", .optional),
      ("server_roles", .many)]
  | database =>
    [("name", .required), ("recovery_model", .optional), ("owner", .optional), ("scripts", .many)]
  | distributor =>
    [("database_name", .optional), ("admin_password", .optional), ("min_retention", .optional),
      ("max_retention", .optional), ("history_retention", .optional), ("snapshot_path", .optional)]
  | publication =>
    [("database_name", .required), ("name", .required), ("distributor_instance", .optional),
      ("description", .optional), ("articles", .many)]
  | subscription =>
    [("database_name", .required), ("publisher_instance", .required),
      ("publisher_database_name", .required), ("publication_name", .required)]
  | backup => [("database_name", .required), ("path", .required), ("copy_only", .optional)]
  | restore => [("database_name", .required), ("path", .required), ("recovery", .optional)]
  | mirroring =>
    [("database_name", .required), ("partner_instance", .required), ("port", .optional),
      ("partner_address", .optional), ("principal_address", .optional)]

/-- The template that a scalar value is; null and structures are none. -/
def template (v : Value) : Except Complaint Template :=
  match v with
  | .flag _ => .ok ⟨v.toText⟩
  | .integer _ => .ok ⟨v.toText⟩
  | .float _ => .ok ⟨v.toText⟩
  | .text s => .ok ⟨s⟩
  | _ => .error .unfit

/-- The templates that a field holds, as many as its arity allows. -/
def templatesOf (arity : Arity) (v : Value) : Except Complaint (List Template) :=
  match arity, v with
  | .required, v => (template v).map fun t => [t]
  | .optional, .null => .ok []
  | .optional, v => (template v).map fun t => [t]
  | .many, .list vs => vs.mapM template
  | .many, _ => .error .unfit

/-- The fields of an operation that have been given, with their templates. -/
abbrev Given := List (String × List Template)

namespace Given

/-- The template of a required field. -/
def need (g : Given) (name : String) : Except Complaint Template :=
  match lookPair name g with
  | some (t :: _) => .ok t
  | _ => .error (.missingField name)

/-- The template of an optional field. -/
def get? (g : Given) (name : String) : Option Template :=
  (lookPair name g).bind List.head?

/-- The templates of a field that may have many. -/
def all (g : Given) (name : String) : List Template :=
  (lookPair name g).getD []

/-- The operation of a kind with the given fields; the first required field that is missing is an
error. -/
def operation (g : Given) : Kind → Except Complaint Operation
  | .login => do
    let name ← g.need "name"
    return .login ⟨name, g.get? "password", g.get? "default_database", g.all "server_roles"⟩
  | .database => do
    let name ← g.need "name"
    return .database ⟨name, g.get? "recovery_model", g.get? "owner", g.all "scripts"⟩
  | .distributor =>
    return .distributor
      ⟨g.get? "database_name", g.get? "admin_password", g.get? "min_retention",
        g.get? "max_retention", g.get? "history_retention", g.get? "snapshot_path"⟩
  | .publication => do
    let databaseName ← g.need "database_name"
    let name ← g.need "name"
    return .publication
      ⟨databaseName, name, g.get? "distributor_instance", g.get? "description", g.all "articles"⟩
  | .subscription => do
    let databaseName ← g.need "database_name"
    let publisherInstance ← g.need "publisher_instance"
    let publisherDatabaseName ← g.need "publisher_database_name"
    let publicationName ← g.need "publication_name"
    return .subscription ⟨databaseName, publisherInstance, publisherDatabaseName, publicationName⟩
  | .backup => do
    let databaseName ← g.need "database_name"
    let path ← g.need "path"
    return .backup ⟨databaseName, path, g.get? "copy_only"⟩
  | .restore => do
    let databaseName ← g.need "database_name"
    let path ← g.need "path"
    return .restore ⟨databaseName, path, g.get? "recovery"⟩
  | .mirroring => do
    let databaseName ← g.need "database_name"
    let partnerInstance ← g.need "partner_instance"
    return .mirroring
      ⟨databaseName, partnerInstance, g.get? "port", g.get? "partner_address",
        g.get? "principal_address"⟩

end Given

/-- A key of an operation: the word for its kind, the name of a field, the place of a field among
the fields of its kind, or something else. -/
inductive Key where
  | type
  | named (name : String)
  | placed (place : Nat)
  | other

/-- A key of an operation. -/
def readKey (d : Document) (depth : Nat) (n : Node) : Read Key := do
  match ← d.target n with
  | .scalar tag text plain =>
    if (Document.ownTag? tag).isSome then fail .unfit
    else match ← Document.scalar tag text plain with
      | .text s => pure (if s = "type" then .type else .named s)
      | .natural n => pure (.placed n)
      | _ => pure .other
  | n => do
    let _ ← d.value .buffered depth n
    pure .other

/-- The kind of an operation. -/
def readKind (d : Document) (n : Node) : Read Kind := do
  let word ← d.text n
  match Kind.ofWord? word with
  | some k => pure k
  | none => fail (.unknownVariant word)

/-- The entries of an operation behind some entries, which stand in reverse, and its kind. -/
def readEntries (d : Document) (depth : Nat) :
    List (Node × Node) → Option Kind → List (Key × Value) → Read (Kind × List (Key × Value))
  | [], none, _ => fail (.missingField "type")
  | [], some kind, before => pure (kind, before.reverse)
  | (k, v) :: more, kind?, before => do
    match ← readKey d depth k with
    | .type =>
      if kind?.isSome then fail (.duplicateField "type")
      else do
        let kind ← readKind d v
        readEntries d depth more (some kind) before
    | key => do
      let value ← d.value .buffered depth v
      readEntries d depth more kind? ((key, value) :: before)

/-- The field of a kind that a key means. -/
def fieldOf (kind : Kind) : Key → Except Complaint (String × Arity)
  | .named name => match kind.fields.find? fun f => f.1 == name with
    | some f => .ok f
    | none => .error (.unknownField name)
  | .placed place => match kind.fields[place]? with
    | some f => .ok f
    | none => .error .unfit
  | _ => .error .unfit

/-- The fields that entries give, in order. -/
def giveEntries (kind : Kind) : List (Key × Value) → Given → Except Complaint Given
  | [], given => .ok given
  | (key, v) :: more, given => do
    let (name, arity) ← fieldOf kind key
    if (lookPair name given).isSome then .error (.duplicateField name)
    else do
      let ts ← templatesOf arity v
      giveEntries kind more ((name, ts) :: given)

/-- The fields that a list of values gives, from the first field on; there must not be more values
than fields. -/
def giveItems : List (String × Arity) → List Value → Given → Except Complaint Given
  | _, [], given => .ok given
  | [], _ :: _, _ => .error .unfit
  | (name, arity) :: fields, v :: vs, given => do
    let ts ← templatesOf arity v
    giveItems fields vs ((name, ts) :: given)

/-- What has been checked on its own, as a part of the reading. -/
def checked {α : Type} : Except Complaint α → Read α
  | .ok a => pure a
  | .error c => fail c

/-- An operation. -/
def readOperation (d : Document) (depth : Nat) (n : Node) : Read Operation := do
  match ← d.target n, depth with
  | .mapping tag es, depth + 1 =>
    if (Document.ownTag? tag).isSome then fail .unfit
    else do
      let (kind, entries) ← readEntries d depth es none []
      checked (do (← giveEntries kind entries []).operation kind)
  | .sequence tag nodes, depth + 1 =>
    if (Document.ownTag? tag).isSome then fail .unfit
    else match nodes with
      | [] => fail (.missingField "type")
      | first :: rest => do
        let kind ← readKind d first
        let values ← rest.mapM (d.value .buffered depth)
        match giveItems kind.fields values [] with
        | .error c => fail c
        | .ok given => match given.operation kind with
          | .error _ => fail .unfit
          | .ok op => pure op
  | _, _ => fail .unfit

/-- A template by itself. -/
def readTemplate (d : Document) (depth : Nat) (n : Node) : Read Template := do
  checked (template (← d.value .tagged depth n))

/-- The fields of a block. -/
def blockFields (d : Document) (depth : Nat) :
    List (RecordField (Option Template × List Operation)) :=
  [⟨"name", [], fun n s => do return (some (← readTemplate d depth n), s.2)⟩,
    ⟨"operations", [], fun n s => do return (s.1, ← d.items depth (readOperation d) n)⟩]

/-- A block, which must have a name. -/
def readBlock (d : Document) (depth : Nat) (n : Node) : Read Block := do
  match ← d.record depth (blockFields d) (none, []) n with
  | (some name, operations) => pure ⟨name, operations⟩
  | (none, _) => fail (.missingField "name")

/-- The fields of a target. -/
def targetFields (d : Document) (depth : Nat) : List (RecordField Target) :=
  [⟨"depends_on", ["dependsOn"], fun n t => do
      return { t with dependsOn := ← d.items depth (fun _ => d.text) n }⟩,
    ⟨"description", [], fun n t => do
      return { t with description := ← d.optional d.text n }⟩,
    ⟨"instances", [], fun n t => do
      return { t with blocks := ← d.items depth (readBlock d) n }⟩]

/-- A target. -/
def readTarget (d : Document) (depth : Nat) (n : Node) : Read Target :=
  d.record depth (targetFields d) ⟨[], none, []⟩ n

/-- The fields of a parameter. -/
def parameterFields (d : Document) (depth : Nat) : List (RecordField Parameter) :=
  [⟨"default", [], fun n p => do
      return { p with defaultValue := ← d.optional (d.value .tagged depth) n }⟩,
    ⟨"description", [], fun n p => do
      return { p with description := ← d.optional d.text n }⟩]

/-- A parameter. -/
def readParameter (d : Document) (depth : Nat) (n : Node) : Read Parameter :=
  d.record depth (parameterFields d) ⟨none, none⟩ n

/-- The fields of a manifest. -/
def manifestFields (d : Document) (depth : Nat) : List (RecordField Manifest) :=
  [⟨"name", [], fun n m => do return { m with name := ← d.text n }⟩,
    ⟨"description", [], fun n m => do
      return { m with description := ← d.optional d.text n }⟩,
    ⟨"parameters", [], fun n m => do
      return { m with parameters := ← d.listing depth (readParameter d) n }⟩,
    ⟨"targets", [], fun n m => do
      return { m with targets := ← d.listing depth (readTarget d) n }⟩]

/-- The manifest that declares nothing. -/
def blank : Manifest :=
  ⟨"", none, Listing.empty, Listing.empty, none⟩

/-- The manifest that a document holds. -/
def ofDocument (d : Document) : Except Complaint Manifest :=
  d.read (d.record Yaml.depthLimit (manifestFields d) blank)

/-- The manifest that a text holds. -/
def ofText (s : String) : Except Complaint Manifest :=
  ofDocument (Document.ofText s)

/-- The declared parameters that a text holds by themselves. -/
def parametersOfText (s : String) : Except Complaint (Listing Parameter) :=
  let d := Document.ofText s
  d.read (d.listing Yaml.depthLimit (readParameter d))

/-- The value that a text holds by itself. -/
def valueOfText (s : String) : Except Complaint Value :=
  let d := Document.ofText s
  d.read (d.value .tagged Yaml.depthLimit)

/-- The template that a text holds by itself. -/
def templateOfText (s : String) : Except Complaint Template :=
  let d := Document.ofText s
  d.read (readTemplate d Yaml.depthLimit)

end Rollout.Manifest
