import Rollout.Operation
import Rollout.Path
import Rollout.Yaml.Value

/-!
# Manifests

A manifest declares parameters and targets. A target names the targets it depends on and lists
blocks, each of which binds operations to one instance. Parameters and targets keep the order in
which they are declared.
-/

namespace Rollout

/-- A declared parameter. -/
structure Parameter where
  defaultValue : Option Yaml.Value
  description : Option String

/-- The text of the default of a parameter; a null default is none. -/
def Parameter.defaultText? (p : Parameter) : Option String :=
  match p.defaultValue with
  | none => none
  | some .null => none
  | some v => some v.toText

/-- Operations on one instance. -/
structure Block where
  name : Template
  operations : List Operation

/-- A unit that is deployed as a whole. -/
structure Target where
  dependsOn : List String
  description : Option String
  blocks : List Block

/-- The operations of a target in order. -/
def Target.operations (t : Target) : List Operation :=
  t.blocks.flatMap Block.operations

/-- A manifest, with the path it was read from if it came from a file. -/
structure Manifest where
  name : String
  description : Option String
  parameters : Listing Parameter
  targets : Listing Target
  source : Option String

namespace Manifest

/-- The directory of the file that a manifest came from. -/
def sourceDir? (m : Manifest) : Option String :=
  m.source.bind Path.parent?

/-- What a manifest is called in messages. -/
def title (m : Manifest) : String :=
  if m.name.isEmpty then "(unnamed)" else m.name

end Manifest

end Rollout
