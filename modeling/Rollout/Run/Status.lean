import Rollout.Listing
import Rollout.Run.StepError

/-!
# Statuses and reports

How far each target of a run has come, and the report of a run that has ended. A run is a success
when every target of it has completed.
-/

namespace Rollout

/-- Why a target was skipped. -/
inductive SkipReason where
  | dependency (name : String)
  | cancelled
  deriving DecidableEq, Repr

/-- The wording of a reason. -/
def SkipReason.message : SkipReason → String
  | dependency name => s!"dependency '{name}' did not complete"
  | cancelled => "cancelled"

/-- How far a target has come. -/
inductive Status where
  | pending
  | running
  | completed
  | failed (error : TargetError)
  | skipped (reason : SkipReason)
  deriving DecidableEq, Repr

namespace Status

/-- Whether nothing more happens to a target. -/
def isTerminal : Status → Bool
  | completed => true
  | failed _ => true
  | skipped _ => true
  | _ => false

/-- Whether a target has failed. -/
def isFailed : Status → Bool
  | failed _ => true
  | _ => false

/-- Whether a target was skipped. -/
def isSkipped : Status → Bool
  | skipped _ => true
  | _ => false

/-- The status of a target that has ended by itself. -/
def ofResult : Except TargetError Unit → Status
  | .ok _ => completed
  | .error e => failed e

/-- Whoever has come to a result is not pending. -/
theorem ofResult_ne_pending (result : Except TargetError Unit) : ofResult result ≠ .pending := by
  cases result <;> simp [ofResult]

end Status

/-- The statuses of the targets of a run, in the order of execution. -/
structure Report where
  statuses : Listing Status

namespace Report

/-- The targets with a status of some kind. -/
def namesWith (r : Report) (kind : Status → Bool) : List String :=
  (r.statuses.entries.filter fun (_, s) => kind s).map Prod.fst

/-- The targets that have completed. -/
def completed (r : Report) : List String :=
  r.namesWith (· == .completed)

/-- The targets that have failed. -/
def failed (r : Report) : List String :=
  r.namesWith Status.isFailed

/-- The targets that were skipped. -/
def skipped (r : Report) : List String :=
  r.namesWith Status.isSkipped

/-- Whether every target has completed. -/
def isSuccess (r : Report) : Bool :=
  r.statuses.entries.all fun (_, s) => s == .completed

/-- Whether nothing more happens to any target. -/
def allTerminal (r : Report) : Bool :=
  r.statuses.entries.all fun (_, s) => s.isTerminal

/-- Names in brackets behind their number and a word. -/
def counted (names : List String) (word : String) : String :=
  toString names.length ++ " " ++ word ++ " [" ++ ", ".intercalate names ++ "]"

/-- The wording of the report of a run that is no success. -/
def summary (r : Report) : String :=
  "deployment failed: " ++ counted r.failed "failed" ++ ", " ++ counted r.skipped "skipped"

end Report

end Rollout
