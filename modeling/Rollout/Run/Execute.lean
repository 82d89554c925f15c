import Rollout.Plan.Order
import Rollout.Plan.Select
import Rollout.Run.Schedule

/-!
# The execution of a plan

A request is selected, ordered and run. If there is no order nothing is sent at all; otherwise the
run ends with a report, which is an error unless every target of it has completed.
-/

namespace Rollout

/-- Why the execution of a plan is no success. -/
inductive RunError where
  | plan (error : PlanError)
  | incomplete (report : Report)

/-- The wording of an error. -/
def RunError.message : RunError → String
  | plan error => error.message
  | incomplete report => report.summary

/-- The number of targets that may be in flight unless a run says otherwise. -/
def defaultMaxParallel : Nat :=
  4

/-- The selection of a request in the order of execution. -/
def Plan.schedule (p : Plan) (requested : List String) : Except PlanError (List String) := do
  p.order (← p.select requested)

namespace Runner

/-- Runs the targets of a request and all that they depend on, as an interleaving tells; `cancelled`
tells whether the run is cancelled before it begins. The journal is what was sent. -/
def executeIn (x : Runner) (interleaving : Interleaving) (requested : List String)
    (cancelled : Bool) : Journal × Except RunError Report :=
  match x.plan.schedule requested with
  | .error e => (Journal.fresh cancelled, .error (.plan e))
  | .ok order =>
    let ended := x.ended interleaving order cancelled
    let report : Report := ⟨ended.statuses⟩
    (ended.journal, if report.isSuccess then .ok report else .error (.incomplete report))

/-- Runs the targets of a request where the first target in the queue goes on until it waits. -/
def execute (x : Runner) (requested : List String) (cancelled : Bool) :
    Journal × Except RunError Report :=
  x.executeIn .fromFront requested cancelled

end Runner

end Rollout
