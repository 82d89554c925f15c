import Mathlib.Data.List.Nodup
import Rollout.Manifest.Schema
import Rollout.Proofs.Plan.Dependencies
import Rollout.Proofs.Yaml.Reading

/-!
# The fields of a manifest

The mappings of a manifest stand at five levels (`At`): the manifest itself, parameters, targets,
blocks and operations. Which fields a mapping may have is said by its level, and for an operation by
the kind that it names (`fieldNames`). A mapping heeds its fields if every key gives one of them and
none is given twice (`Heeds`), as every record does that is accepted (`heeds_of_record`). Reading a
manifest reads every node at a level (`reads_of_at`).
-/

namespace Rollout.Manifest

open Rollout.Yaml (Document Node Read Scalar Value)
open Rollout.Yaml.Document (Accepts RecordField)

/-- The levels of a manifest at which mappings have fields. -/
inductive Level where
  | manifest
  | parameter
  | target
  | block
  | operation
  deriving DecidableEq

/-- What a scalar stands for that has no tag of an application. -/
def scalar? (d : Document) (n : Node) : Option Scalar :=
  match d.standsFor? n with
  | some (.scalar tag text plain) =>
    if (Document.ownTag? tag).isSome then none else Scalar.resolve tag text plain
  | _ => none

/-- Whether a key of an operation is the word for its kind. -/
def isTypeKey (d : Document) (key : Node) : Bool :=
  match scalar? d key with
  | some (.text w) => w == "type"
  | _ => false

/-- The kind that an entry of an operation names. -/
def kindOf? (d : Document) (e : Node × Node) : Option Kind :=
  (d.word? e.2).bind Kind.ofWord?

/-- The kind of an operation with some entries. -/
def kind? (d : Document) (es : List (Node × Node)) : Option Kind :=
  (es.find? fun e => isTypeKey d e.1).bind (kindOf? d)

/-- The fields of a mapping with some entries at a level, each with the other names it goes by. -/
def fieldNames (d : Document) (level : Level) (es : List (Node × Node)) :
    List (String × List String) :=
  match level with
  | .manifest => [("name", []), ("description", []), ("parameters", []), ("targets", [])]
  | .parameter => [("default", []), ("description", [])]
  | .target => [("depends_on", ["dependsOn"]), ("description", []), ("instances", [])]
  | .block => [("name", []), ("operations", [])]
  | .operation =>
    ("type", []) :: ((kind? d es).toList.flatMap Kind.fields).map fun f => (f.1, [])

/-- The word that a key is. The keys of operations are read as values, so there a number is no
word. -/
def keyWord? (d : Document) (level : Level) (key : Node) : Option String :=
  match level, scalar? d key with
  | .operation, some (.text w) => some w
  | .operation, _ => none
  | _, _ => d.word? key

/-- The field that a key names in a mapping with some entries at a level. -/
def named? (d : Document) (level : Level) (es : List (Node × Node)) (key : Node) : Option String :=
  (keyWord? d level key).bind fun w =>
    ((fieldNames d level es).find? fun f => f.1 == w || f.2.contains w).map Prod.fst

/-- The field of an operation whose place among the fields of its kind a key is. -/
def placed? (d : Document) (level : Level) (es : List (Node × Node)) (key : Node) :
    Option String :=
  match level, scalar? d key with
  | .operation, some (.natural i) => (kind? d es).bind fun kind => kind.fields[i]?.map Prod.fst
  | _, _ => none

/-- The field that a key gives in a mapping with some entries at a level: the one that it names, or
in an operation the one whose place it is. -/
def field? (d : Document) (level : Level) (es : List (Node × Node)) (key : Node) : Option String :=
  (named? d level es key).or (placed? d level es key)

/-- A node that is the value of a field of a mapping at a level. -/
def FieldValue (d : Document) (level : Level) (n : Node) (name : String) (v : Node) : Prop :=
  ∃ key, (key, v) ∈ d.entriesOf n ∧ named? d level (d.entriesOf n) key = some name

/-- The nodes of a document that stand at a level of a manifest. -/
inductive At (d : Document) : Level → Node → Prop where
  | manifest : At d .manifest d.root
  | parameter {n v : Node} {e : Node × Node} (h : At d .manifest n)
    (hv : FieldValue d .manifest n "parameters" v) (he : e ∈ d.entriesOf v) : At d .parameter e.2
  | target {n v : Node} {e : Node × Node} (h : At d .manifest n)
    (hv : FieldValue d .manifest n "targets" v) (he : e ∈ d.entriesOf v) : At d .target e.2
  | block {n v x : Node} (h : At d .target n) (hv : FieldValue d .target n "instances" v)
    (hx : x ∈ d.itemsOf v) : At d .block x
  | operation {n v x : Node} (h : At d .block n) (hv : FieldValue d .block n "operations" v)
    (hx : x ∈ d.itemsOf v) : At d .operation x

/-- The keys of the entries of a mapping at a level give fields of it, none of them twice. -/
structure Heeds (d : Document) (level : Level) (es : List (Node × Node)) : Prop where
  fields : ∀ e ∈ es, (field? d level es e.1).isSome = true
  distinct : (es.map fun e => field? d level es e.1).Nodup

variable {d : Document}

theorem Heeds.nil {level : Level} : Heeds d level [] :=
  ⟨by simp, by simp⟩

/-- Entries whose keys give some distinct fields, in any order, heed their fields. -/
theorem Heeds.of_perm {level : Level} {es : List (Node × Node)} {names : List String}
    (h : (es.map fun e => field? d level es e.1).Perm (names.map some)) (hn : names.Nodup) :
    Heeds d level es where
  fields e he := by
    obtain ⟨name, -, hname⟩ := List.mem_map.1 (h.mem_iff.1 (List.mem_map_of_mem he))
    rw [← hname]
    rfl
  distinct := h.nodup_iff.2 (hn.map fun _ _ => Option.some.inj)

/-! ## Records -/

/-- The fields that a level has are those that a record reads. -/
def Lists {σ : Type} (d : Document) (level : Level) (fields : List (RecordField σ)) : Prop :=
  ∀ es key, field? d level es key =
    ((d.word? key).bind fun w => fields.find? (·.goesBy w)).map (·.name)

/-- A level lists the fields of a record that have the names that it says. -/
theorem lists_of_names {σ : Type} {level : Level} {fields : List (RecordField σ)}
    (hw : ∀ key, keyWord? d level key = d.word? key) (hp : ∀ es key, placed? d level es key = none)
    (hf : ∀ es, fieldNames d level es = fields.map fun f => (f.name, f.otherNames)) :
    Lists d level fields := by
  intro es key
  rw [field?, hp, Option.or_none, named?, hw, hf]
  cases d.word? key with
  | none => rfl
  | some w =>
    simp only [Option.bind_some, List.find?_map, Option.map_map]
    rfl

/-- The level of the manifest is read as its record. -/
theorem lists_manifest (depth : Nat) : Lists d .manifest (manifestFields d depth) :=
  lists_of_names (fun _ => rfl) (fun _ _ => rfl) fun _ => rfl

/-- The level of a parameter is read as its record. -/
theorem lists_parameter (depth : Nat) : Lists d .parameter (parameterFields d depth) :=
  lists_of_names (fun _ => rfl) (fun _ _ => rfl) fun _ => rfl

/-- The level of a target is read as its record. -/
theorem lists_target (depth : Nat) : Lists d .target (targetFields d depth) :=
  lists_of_names (fun _ => rfl) (fun _ _ => rfl) fun _ => rfl

/-- The level of a block is read as its record. -/
theorem lists_block (depth : Nat) : Lists d .block (blockFields d depth) :=
  lists_of_names (fun _ => rfl) (fun _ _ => rfl) fun _ => rfl

section Record

variable {σ : Type} {level : Level} {depth : Nat} {fields : Nat → List (RecordField σ)} {empty : σ}
  {n : Node}

/-- A record whose fields a level lists is accepted only with keys that give its fields. -/
theorem heeds_of_record (hl : ∀ depth, Lists d level (fields depth))
    (h : Accepts (d.record depth fields empty) n) : Heeds d level (d.entriesOf n) := by
  obtain ⟨depth', given, hgiven, hnodup⟩ := Document.given_of_record h
  have hmap : (d.entriesOf n).map (fun e => field? d level (d.entriesOf n) e.1) =
      (given.map (·.name)).map some := by
    rw [List.map_map, ← List.forall₂_eq_eq_eq, List.forall₂_map_left_iff,
      List.forall₂_map_right_iff]
    exact hgiven.imp fun e f hf => by rw [hl depth', hf.1, Option.map_some]; rfl
  exact .of_perm (.of_eq hmap) hnodup

/-- The value of a field of an accepted record is accepted by the reader of the field. -/
theorem accepts_of_fieldValue (hl : ∀ depth, Lists d level (fields depth))
    (h : Accepts (d.record depth fields empty) n) {name : String} {v : Node}
    (hv : FieldValue d level n name v) :
    ∃ depth', ∃ f ∈ fields depth', f.name = name ∧ ∃ a, Accepts (fun n => f.read n a) v := by
  obtain ⟨key, he, hname⟩ := hv
  obtain ⟨depth', f, hf, hread⟩ := Document.accepts_of_record h he
  have hfield : field? d level (d.entriesOf n) key = some name := by simp [field?, hname]
  rw [hl depth', hf, Option.map_some] at hfield
  refine ⟨depth', f, ?_, Option.some.inj hfield, hread⟩
  obtain ⟨w, -, hw⟩ := Option.bind_eq_some_iff.1 hf
  exact List.mem_of_find?_eq_some hw

end Record

/-! ## From level to level -/

/-- The reader of a level accepts a node. -/
def Reads (d : Document) : Level → Node → Prop
  | .manifest, n => ∃ depth, Accepts (d.record depth (manifestFields d) blank) n
  | .parameter, n => ∃ depth, Accepts (readParameter d depth) n
  | .target, n => ∃ depth, Accepts (readTarget d depth) n
  | .block, n => ∃ depth, Accepts (readBlock d depth) n
  | .operation, n => ∃ depth, Accepts (readOperation d depth) n

/-- A block is accepted only if its record is. -/
theorem accepts_record_of_readBlock {depth : Nat} {n : Node} (h : Accepts (readBlock d depth) n) :
    Accepts (d.record depth (blockFields d) (none, [])) n := by
  obtain ⟨s, r, h⟩ := h
  obtain ⟨a, s', h, -⟩ := Read.ok_of_bind h
  exact ⟨s, _, h⟩

/-- In a document that is a manifest every node at a level is accepted by the reader of the
level. -/
theorem reads_of_at {m : Manifest} (hm : ofDocument d = .ok m) {level : Level} {n : Node}
    (h : At d level n) : Reads d level n := by
  induction h with
  | manifest =>
    simp only [ofDocument, Document.read] at hm
    split at hm
    · cases hm
    · next h => exact ⟨_, _, _, h⟩
  | parameter _ hv he ih =>
    obtain ⟨depth, h⟩ := ih
    obtain ⟨depth', f, hf, hname, a, followed, r, h⟩ := accepts_of_fieldValue lists_manifest h hv
    simp only [manifestFields, List.mem_cons, List.not_mem_nil, or_false] at hf
    rcases hf with rfl | rfl | rfl | rfl <;> simp at hname
    obtain ⟨l, s, h, -⟩ := Read.ok_of_bind h
    exact Document.accepts_listing ⟨_, _, h⟩ _ he
  | target _ hv he ih =>
    obtain ⟨depth, h⟩ := ih
    obtain ⟨depth', f, hf, hname, a, followed, r, h⟩ := accepts_of_fieldValue lists_manifest h hv
    simp only [manifestFields, List.mem_cons, List.not_mem_nil, or_false] at hf
    rcases hf with rfl | rfl | rfl | rfl <;> simp at hname
    obtain ⟨l, s, h, -⟩ := Read.ok_of_bind h
    exact Document.accepts_listing ⟨_, _, h⟩ _ he
  | block _ hv hx ih =>
    obtain ⟨depth, h⟩ := ih
    obtain ⟨depth', f, hf, hname, a, followed, r, h⟩ := accepts_of_fieldValue lists_target h hv
    simp only [targetFields, List.mem_cons, List.not_mem_nil, or_false] at hf
    rcases hf with rfl | rfl | rfl <;> simp at hname
    obtain ⟨l, s, h, -⟩ := Read.ok_of_bind h
    exact Document.accepts_items ⟨_, _, h⟩ _ hx
  | operation _ hv hx ih =>
    obtain ⟨depth, h⟩ := ih
    obtain ⟨depth', f, hf, hname, a, followed, r, h⟩ :=
      accepts_of_fieldValue lists_block (accepts_record_of_readBlock h) hv
    simp only [blockFields, List.mem_cons, List.not_mem_nil, or_false] at hf
    rcases hf with rfl | rfl <;> simp at hname
    obtain ⟨l, s, h, -⟩ := Read.ok_of_bind h
    exact Document.accepts_items ⟨_, _, h⟩ _ hx

end Rollout.Manifest
