import Rollout.Plan

/-!
# Plans in words

A plan told to a reader: every target of an order with the targets it comes after, and a numbered
line for each of its steps.
-/

namespace Rollout.Plan

/-- The line that opens a target. -/
def headLine (name : String) (t : PlanTarget) : String :=
  if t.dependsOn.isEmpty then name ++ ":"
  else name ++ " (after " ++ ", ".intercalate t.dependsOn ++ "):"

/-- The line of a step, which is numbered from one. -/
def stepLine (s : Step) (number : Nat) : String :=
  "  " ++ toString number ++ ". [" ++ s.instanceName ++ "] " ++ s.describe

/-- The lines of a target. -/
def targetLines (name : String) (t : PlanTarget) : List String :=
  headLine name t ::
    if t.steps.isEmpty then ["  (no steps)"]
    else (t.steps.zipIdx 1).map fun (s, number) => stepLine s number

/-- The lines of the targets of an order; a name that is no target has no lines. -/
def describe (p : Plan) (order : List String) : List String :=
  order.flatMap fun name =>
    match p.targets.get? name with
    | some t => targetLines name t
    | none => []

end Rollout.Plan
