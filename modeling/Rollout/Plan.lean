import Rollout.Listing
import Rollout.Step

/-!
# Plans

A plan lists targets with the targets that each depends on and the steps of each. It is what a
manifest comes to once every parameter has a value.
-/

namespace Rollout

/-- A target of a plan: the targets it depends on, and its steps in order. -/
structure PlanTarget where
  dependsOn : List String
  steps : List Step
  deriving Inhabited

/-- The targets of a plan in the order in which they are declared. -/
structure Plan where
  targets : Listing PlanTarget
  deriving Inhabited

namespace Plan

/-- The names of the targets in order. -/
def names (p : Plan) : List String :=
  p.targets.names

/-- Whether a plan has a target. -/
def has (p : Plan) (name : String) : Bool :=
  p.targets.has name

/-- What a target depends on; a name that is no target depends on nothing. -/
def dependencies (p : Plan) (name : String) : List String :=
  match p.targets.get? name with
  | some t => t.dependsOn
  | none => []

/-- The steps of a target; a name that is no target has none. -/
def steps (p : Plan) (name : String) : List Step :=
  match p.targets.get? name with
  | some t => t.steps
  | none => []

/-- The number of targets. -/
def size (p : Plan) : Nat :=
  p.targets.size

/-- The steps of all targets. -/
def allSteps (p : Plan) : List Step :=
  p.targets.entries.flatMap fun (_, t) => t.steps

/-- The number of steps of all targets. -/
def stepCount (p : Plan) : Nat :=
  p.allSteps.length

/-- The files from which the steps of a plan read scripts. -/
def scripts (p : Plan) : List String :=
  p.allSteps.flatMap fun
    | .database s => s.scripts
    | _ => []

/-- A target of a plan in JSON. -/
def targetJson (t : PlanTarget) : Json :=
  .object [("depends_on", Step.textsJson t.dependsOn), ("steps", .list (t.steps.map Step.toJson))]

/-- A plan in JSON, with secrets redacted. -/
def toJson (p : Plan) : Json :=
  .object [("targets", .object (p.targets.entries.map fun (name, t) => (name, targetJson t)))]

end Plan

end Rollout
