import Rollout.Plan
import Rollout.Plan.Error
import Rollout.Plan.Reach

/-!
# The order of execution

The selected targets of a plan, each one after those it depends on. A target comes as soon as the
last of its selected dependencies has come, and targets that come at once stand in the order of the
plan. There is no such order if and only if dependencies run in a circle.
-/

namespace Rollout.Plan

/-- Targets in the course of being ordered: those that may come, those that came, the latest first,
and those that wait, with the number of their dependencies that have not come. -/
structure Sorting where
  ready : List String
  came : List String
  waiting : List (String × Nat)

/-- Waiting targets after a target has come: each waits for as many targets less as it names that
one among its dependencies. -/
def relieve (p : Plan) (name : String) (waiting : List (String × Nat)) : List (String × Nat) :=
  waiting.map fun (n, count) => (n, count - (p.dependencies n).count name)

/-- Whether a target waits for nothing more. -/
def isFree (entry : String × Nat) : Bool :=
  entry.2 == 0

/-- Every entry is free or is not. -/
theorem length_filter_isFree (l : List (String × Nat)) :
    (l.filter isFree).length + (l.filter (!isFree ·)).length = l.length := by
  induction l with
  | nil => rfl
  | cons a r ih => by_cases h : isFree a <;> simp [h] <;> omega

/-- Lets the targets that are ready come, one after the other, and at the end of the queue those
that become ready by it. -/
def sort (p : Plan) (s : Sorting) : Sorting :=
  match s with
  | ⟨[], came, waiting⟩ => ⟨[], came, waiting⟩
  | ⟨name :: ready, came, waiting⟩ =>
    let relieved := p.relieve name waiting
    sort p
      ⟨ready ++ (relieved.filter isFree).map Prod.fst, name :: came,
        relieved.filter (!isFree ·)⟩
termination_by s.ready.length + s.waiting.length
decreasing_by
  have h := length_filter_isFree (p.relieve name waiting)
  have hl : (p.relieve name waiting).length = waiting.length := by simp [relieve]
  simp only [List.length_append, List.length_map, List.length_cons]
  omega

/-- The number of dependencies of a target that are among some targets, counted as often as they
are named. -/
def dependenciesAmong (p : Plan) (members : List String) (name : String) : Nat :=
  (p.dependencies name).countP (· ∈ members)

/-- The start of the ordering of some targets. -/
def sortingOf (p : Plan) (members : List String) : Sorting :=
  let counted := members.map fun n => (n, p.dependenciesAmong members n)
  ⟨(counted.filter isFree).map Prod.fst, [], counted.filter (!isFree ·)⟩

/-- Whether a target can reach itself through one or more dependencies among some targets. -/
def isCyclic (p : Plan) (members : List String) (name : String) : Bool :=
  name ∈ reach members p.dependencies (p.dependencies name)

/-- The order of execution of selected targets, or the targets that stand on circles; a selected
name that is no target is an error. -/
def order (p : Plan) (selected : List String) : Except PlanError (List String) :=
  match selected.find? (!p.has ·) with
  | some name => .error (.unknownTarget name)
  | none =>
    let sorted := p.sort (p.sortingOf (p.names.filter (· ∈ selected)))
    let stuck := sorted.waiting.map Prod.fst
    if stuck.isEmpty then .ok sorted.came.reverse
    else .error (.cycle (stuck.filter (p.isCyclic stuck)))

end Rollout.Plan
