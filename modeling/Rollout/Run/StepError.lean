/-!
# Why a step fails

The failures of round trips to an instance, the failures of steps, and the rule for work whose
failure must not fail a step: every failure of it is dropped but the cancellation of the run.
-/

namespace Rollout

/-- The failure of a round trip. -/
inductive TransportError where
  /-- No connection to the instance could be opened. -/
  | connect (instanceName message : String)
  /-- The instance refused a batch. -/
  | command (instanceName : String) (exitCode : Int) (message : String)
  /-- The program that talks to instances could not be run. -/
  | spawn (program message : String)
  deriving DecidableEq, Repr

/-- The wording of the failure of a round trip. -/
def TransportError.message : TransportError → String
  | connect instanceName message => s!"cannot connect to instance '{instanceName}': {message}"
  | command instanceName exitCode message =>
    s!"command failed on '{instanceName}' (exit code {exitCode}): {message}"
  | spawn program message => s!"failed to run {program}: {message}"

/-- The failure of a step. -/
inductive StepError where
  /-- The run was cancelled. -/
  | cancelled
  /-- A file could not be read. -/
  | io (path message : String)
  | transport (error : TransportError)
  deriving DecidableEq, Repr

/-- The wording of the failure of a step. -/
def StepError.message : StepError → String
  | cancelled => "cancelled"
  | io path message => s!"cannot read {path}: {message}"
  | transport error => error.message

/-- The result of work whose failure must not fail a step: nothing in the place of a failure,
except that a cancellation stays one. -/
def bestEffort {α : Type} : Except StepError α → Except StepError (Option α)
  | .ok a => .ok (some a)
  | .error .cancelled => .error .cancelled
  | .error _ => .ok none

/-- The failure of a step, with the target, the instance and the description of the step. -/
structure TargetError where
  target : String
  instanceName : String
  step : String
  cause : StepError
  deriving DecidableEq, Repr

/-- The wording of the failure of a target. -/
def TargetError.message (e : TargetError) : String :=
  s!"target '{e.target}' failed on instance '{e.instanceName}' at '{e.step}': {e.cause.message}"

end Rollout
