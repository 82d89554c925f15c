/-!
# Why a plan cannot be made

Every reason for which a manifest yields no plan, or a plan no order of execution, with the one
message that tells it.
-/

namespace Rollout

/-- What is wrong with the form of a template. -/
inductive TemplateFault where
  /-- A reference opens at a byte position and is never closed. -/
  | unclosed (position : Nat)
  /-- The text between the braces of a reference names no parameter. -/
  | unknownReference (key : String)
  deriving DecidableEq, Repr

namespace TemplateFault

/-- The wording of a fault. -/
def message : TemplateFault → String
  | unclosed position => s!"unclosed reference at position {position}"
  | unknownReference key => s!"unknown reference '{key}'"

end TemplateFault

/-- Why a plan cannot be made or ordered. -/
inductive PlanError where
  | missingParameter (name : String)
  | missingReference (template name : String)
  | malformed (template : String) (fault : TemplateFault)
  | conversion (template value expected : String)
  | unknownDependency (target dependency : String)
  | selfDependency (target : String)
  | unknownTarget (name : String)
  | cycle (targets : List String)
  deriving DecidableEq, Repr

namespace PlanError

/-- The wording of an error. -/
def message : PlanError → String
  | missingParameter name => s!"missing value for parameter '{name}'"
  | missingReference template name =>
    s!"expression '{template}' references unknown parameter '{name}'"
  | malformed template fault => s!"malformed expression '{template}': {fault.message}"
  | conversion template value expected =>
    s!"expression '{template}' expanded to '{value}', which is not a valid {expected}"
  | unknownDependency target dependency =>
    s!"target '{target}' depends on unknown target '{dependency}'"
  | selfDependency target => s!"target '{target}' depends on itself"
  | unknownTarget name => s!"unknown target '{name}'"
  | cycle targets => s!"dependency cycle detected involving: " ++ ", ".intercalate targets

end PlanError

end Rollout
