import Rollout.Run.Work
import Rollout.Step.Activity

/-!
# Targets in flight

A target that is in flight does its steps in order. Targets in flight at the same time stand in a
queue. One of them at a time goes on by a step: it keeps its place, or goes to the back of the queue
if it has to wait, or leaves the queue because it has ended.
-/

namespace Rollout

/-- What a target does for a step: nothing if the run is cancelled by then. A failure is told with
the target, the instance and the description of the step. -/
def Step.attempt (files : Files) (target : String) (s : Step) : Activity TargetError Unit :=
  let blame := TargetError.mk target s.instanceName s.describe
  .look fun cancelled =>
    if cancelled then .fail (blame .cancelled)
    else (s.activity files).mapResult (Except.mapError blame)

/-- What a target does: its steps in order, up to the first that fails. -/
def attemptAll (files : Files) (target : String) : List Step → Activity TargetError Unit
  | [] => .done ()
  | s :: r => do
    s.attempt files target
    attemptAll files target r

/-- A target in flight, with the work that remains of it. -/
structure Flight where
  target : String
  work : Work TargetError Unit

/-- The targets in flight, the first of which is at the front. -/
abbrev Queue := List Flight

namespace Queue

/-- The queue whose target at some place, between `before` and `after`, has gone on. -/
def goOn (before : Queue) (f : Flight) (after : Queue) : Queue :=
  if f.work.isWaiting then before ++ after ++ [f] else before ++ f :: after

/-- A target that goes on in the queue changes its place and no other target. -/
theorem goOn_perm (before : Queue) (f : Flight) (after : Queue) :
    (goOn before f after).Perm (f :: (before ++ after)) := by
  unfold goOn
  split
  · exact List.perm_append_comm
  · exact List.perm_middle

/-- A queue is less than another if it comes from it, up to the order of the targets, by the work
of one of them shrinking. -/
def Shrinks (q' q : Queue) : Prop :=
  ∃ f f' rest, q.Perm (f :: rest) ∧ q'.Perm (f' :: rest) ∧ Work.order.rel f'.work f.work

/-- The places in a queue do not matter for its end. -/
theorem acc_of_perm {q q' : Queue} (h : Acc Shrinks q) (hp : q.Perm q') : Acc Shrinks q' :=
  ⟨_, fun _ ⟨f, f', rest, hq, hr, hf⟩ => h.inv ⟨f, f', rest, hp.trans hq, hr, hf⟩⟩

/-- A target may join a queue that cannot shrink forever, for its work cannot either. -/
theorem acc_cons {q : Queue} (hq : Acc Shrinks q) (f : Flight) : Acc Shrinks (f :: q) := by
  induction hq generalizing f with
  | intro q hq ihq =>
    obtain ⟨target, work⟩ := f
    induction work using Work.order.wf.induction generalizing target with
    | _ work ihw =>
      refine ⟨_, fun q' ⟨g, g', rest, hg, hg', hlt⟩ => ?_⟩
      rcases List.mem_cons.1 (hg.symm.subset List.mem_cons_self) with rfl | hmem
      · -- the newcomer goes on
        have hrest : rest.Perm q := (List.perm_cons _).1 hg.symm
        exact acc_of_perm (ihw g'.work hlt g'.target) (hg'.trans (hrest.cons g')).symm
      · -- another one goes on
        obtain ⟨s, t, rfl⟩ := List.append_of_mem hmem
        have hmid : (s ++ g :: t).Perm (g :: (s ++ t)) := List.perm_middle
        have hrest : rest.Perm (⟨target, work⟩ :: (s ++ t)) :=
          (List.perm_cons g).1 (hg.symm.trans ((hmid.cons _).trans (.swap _ _ _)))
        exact acc_of_perm (ihq (g' :: (s ++ t)) ⟨g, g', s ++ t, hmid, .rfl, hlt⟩ ⟨target, work⟩)
          (hg'.trans ((hrest.cons g').trans (.swap _ _ _))).symm

/-- A queue cannot shrink for ever. -/
theorem wellFounded_shrinks : WellFounded Shrinks := by
  refine ⟨fun q => ?_⟩
  induction q with
  | nil => exact ⟨_, fun _ ⟨_, _, _, h, _⟩ => absurd h.symm.eq_nil (by simp)⟩
  | cons f rest ih => exact acc_cons ih f

/-- The order in which queues shrink. -/
instance order : WellFoundedRelation Queue :=
  ⟨Shrinks, wellFounded_shrinks⟩

end Queue

end Rollout
