import Rollout.Plan
import Rollout.Plan.Error
import Rollout.Plan.Reach

/-!
# The selection of targets

A request selects the targets it names and all that these depend on, directly or not. The empty
request selects every target. A selection stands in the order of the plan.
-/

namespace Rollout.Plan

/-- The first dependency of a target that is no target of the plan. -/
def strayDependency? (p : Plan) (name : String) : Option PlanError :=
  ((p.dependencies name).find? (!p.has ·)).map (.unknownDependency name)

/-- The targets that a request selects, or the first requested name that is no target, or else a
dependency that is none, found by the search in depth. -/
def select (p : Plan) (requested : List String) : Except PlanError (List String) :=
  if requested.isEmpty then .ok p.names
  else match requested.find? (!p.has ·) with
    | some name => .error (.unknownTarget name)
    | none =>
      let reached := reach p.names p.dependencies requested
      match reached.findSome? p.strayDependency? with
      | some e => .error e
      | none => .ok (p.names.filter (· ∈ reached))

end Rollout.Plan
