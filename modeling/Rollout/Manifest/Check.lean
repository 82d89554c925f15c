import Rollout.Manifest

/-!
# Checks of manifests

What can be said against a manifest before any parameter has a value: names that are not well
formed, dependencies that name no other target, blocks without a name and malformed templates.
Beside these errors there are two warnings, for references to parameters that are not declared and
for targets without operations.
-/

namespace Rollout

/-- Something wrong with a manifest. -/
inductive Defect where
  | parameterName (name : String)
  | targetName (name : String)
  | selfDependency (target : String)
  | unknownDependency (target dependency : String)
  /-- A block, counted from one, whose name is blank. -/
  | namelessBlock (target : String) (number : Nat)
  | blockName (target : String) (error : PlanError)
  | operation (target kind : String) (error : PlanError)
  deriving DecidableEq

/-- The wording of a defect. -/
def Defect.message : Defect → String
  | parameterName name => s!"parameter name '{name}' must be an identifier"
  | targetName name => s!"target name '{name}' contains invalid characters"
  | selfDependency target => s!"target '{target}' depends on itself"
  | unknownDependency target dependency =>
    s!"target '{target}' depends on unknown target '{dependency}'"
  | namelessBlock target number => s!"target '{target}' instance block {number} has no name"
  | blockName target error => s!"target '{target}': {error.message}"
  | operation target kind error => s!"target '{target}' ({kind}): {error.message}"

namespace Manifest

/-- Whether a parameter has a well-formed name: an identifier. -/
def isParameterName (name : String) : Bool :=
  Template.isIdentifier name.toList

/-- Whether a target has a well-formed name: letters, digits and underscores of ASCII, and from
the second character on points and dashes too. -/
def isTargetName (name : String) : Bool :=
  match name.toList with
  | [] => false
  | c :: r => Template.isWordChar c && r.all fun x => Template.isWordChar x || x == '.' || x == '-'

/-- The defect of a dependency, if it has one. -/
def dependencyDefect? (m : Manifest) (target dependency : String) : Option Defect :=
  if dependency = target then some (.selfDependency target)
  else if m.targets.has dependency then none
  else some (.unknownDependency target dependency)

/-- The defect of a template, if it is malformed. -/
def templateDefect? (defect : PlanError → Defect) (t : Template) : Option Defect :=
  match t.check with
  | .error e => some (defect e)
  | .ok _ => none

/-- The defects of a block. -/
def blockDefects (target : String) (number : Nat) (b : Block) : List Defect :=
  (if Text.isBlankText b.name.text then [.namelessBlock target number] else []) ++
    (templateDefect? (.blockName target) b.name).toList ++
    b.operations.flatMap fun op =>
      op.templates.filterMap (templateDefect? (.operation target op.kind))

/-- The defects of a target. -/
def targetDefects (m : Manifest) (name : String) (t : Target) : List Defect :=
  (if isTargetName name then [] else [.targetName name]) ++
    t.dependsOn.filterMap (m.dependencyDefect? name) ++
    (t.blocks.zipIdx 1).flatMap fun (b, number) => blockDefects name number b

/-- The defects of a manifest, in the order in which it declares things. -/
def defects (m : Manifest) : List Defect :=
  (m.parameters.names.filter (!isParameterName ·)).map .parameterName ++
    m.targets.entries.flatMap fun (name, t) => m.targetDefects name t

/-- Items without those that came before. -/
def distinct {α : Type} [DecidableEq α] (found : List α) : List α → List α
  | [] => found.reverse
  | a :: r => if a ∈ found then distinct found r else distinct (a :: found) r

/-- The references of a target to parameters that the manifest does not declare. -/
def undeclaredIn (m : Manifest) (name : String) (t : Target) : List (String × String) :=
  let templates := t.blocks.flatMap fun b => b.name :: b.operations.flatMap Operation.templates
  ((templates.flatMap Template.mentions).filter (!m.parameters.has ·)).map fun p => (name, p)

/-- The references of targets to parameters that the manifest does not declare, each once. -/
def undeclared (m : Manifest) : List (String × String) :=
  distinct [] (m.targets.entries.flatMap fun (name, t) => m.undeclaredIn name t)

/-- The targets without operations. -/
def emptyTargets (m : Manifest) : List String :=
  (m.targets.entries.filter fun (_, t) => t.operations.isEmpty).map Prod.fst

end Manifest

end Rollout
