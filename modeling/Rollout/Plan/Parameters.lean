import Rollout.Manifest
import Rollout.Plan.Error

/-!
# The values of parameters

A parameter has the value that is supplied for it, and otherwise its default. Values that are
supplied for parameters no one declared are kept.
-/

namespace Rollout

/-- Supplied values completed by the defaults of declared parameters, up to the first parameter
that has neither. -/
def completeParams (values : Params) : List (String × Parameter) → Except PlanError Params
  | [] => .ok values
  | (name, p) :: r =>
    if values.has name then completeParams values r
    else match p.defaultText? with
      | some value => completeParams (values.put name value) r
      | none => .error (.missingParameter name)

/-- The values of the declared parameters, and of all supplied ones. -/
def resolveParams (declared : Listing Parameter) (supplied : Params) : Except PlanError Params :=
  completeParams supplied declared.entries

end Rollout
